import Placard.Proofs.Json.Printing
import Placard.Proofs.Json.Reading
import Placard.Proofs.Json.RoundTrip
import Placard.Proofs.Run.World

/-! What a run prints. A run that succeeds prints the document that its template renders, on one line,
and the line is read as the same document again; any other run prints nothing. -/
namespace Placard

namespace Json

instance : DecidablePred IsExact
  | .int i => inferInstanceAs (Decidable (IsWord i))
  | .float d => inferInstanceAs (Decidable (d = .zero true))
  | .null | .bool _ | .str _ | .arr _ | .obj _ => isTrue trivial

def Lexeme.number? : Lexeme → Option Json
  | .number (.ok v) => some v
  | _ => none

def numbers (text : String) : List Json :=
  (tokens 0 text.toList).filterMap fun t => t.lexeme.number?

/-- A text has no other numbers than whole ones that a word holds. That a zero may have a minus sign
counts, since it is read as a float then. -/
def WholeNumbers (text : String) : Prop := ∀ v ∈ numbers text, IsExact v

instance : DecidablePred WholeNumbers := fun text => List.decidableBAll IsExact (numbers text)

theorem exact_of_parse {text : String} {v : Json} (whole : WholeNumbers text)
    (parsed : Json.parse text = .ok v) : Each IsExact v := by
  have numeric : ∀ t ∈ tokens 0 text.toList, t.lexeme.Numeric IsExact := by
    intro t member v here
    refine whole v (List.mem_filterMap.mpr ⟨t,member,?_⟩)
    rw [here]
    rfl
  intro u inside
  cases u with
  | int i => exact (tidy_of_parse numeric parsed).numbers _ inside trivial
  | float d => exact (tidy_of_parse numeric parsed).numbers _ inside trivial
  | _ => trivial

/-- A document whose text has whole numbers alone is what its compact text is parsed to. -/
theorem parse_compact_of_parse {text : String} {v : Json} (whole : WholeNumbers text)
    (parsed : Json.parse text = .ok v) : Json.parse v.compact = .ok v := by
  obtain ⟨ordered,shallow,-⟩ := tidy_of_parse (P := fun _ => True) (fun _ _ _ _ => trivial) parsed
  exact parse_compact ordered (exact_of_parse whole parsed) shallow

end Json

namespace Run

def rendered (r : Registry) (request : RenderRequest) : Except RunError String := do
  let data ← (Json.parse request.data).mapError .badData
  ((r.render request.target data).1).mapError .template

def compacted (text : String) : Except RunError String := do
  let document ← (Json.parse text).mapError fun message =>
    .invalid ("rendered template is not valid JSON: " ++ message)
  return document.compact

theorem payload_eq_rendered (r : Registry) (request : RenderRequest) :
    payload r request = rendered r request >>= compacted := by
  unfold payload rendered
  cases (Json.parse request.data).mapError RunError.badData <;> rfl

theorem compacted_eq_ok_iff {text payload : String} :
    compacted text = .ok payload ↔
      ∃ document, Json.parse text = .ok document ∧ document.compact = payload := by
  simp [compacted,bind_eq_ok_iff,mapError_eq_ok_iff,Pure.pure,Except.pure]

end Run

theorem RunError.exitCode_ne_zero (e : RunError) : e.exitCode ≠ 0 := by
  cases e with
  | template failure => cases kind : failure.kind <;> simp [exitCode,kind]
  | config | invalid | badData | source => simp [exitCode]

namespace World

def rendered (w : World) : Except RunError String :=
  match w.settings with
  | .error e => .error e
  | .ok settings =>
    match settings.source.location with
    | .error e => .error e
    | .ok location =>
      match w.setUp settings location with
      | (.error e,_) => .error (.template e)
      | (.ok _,r) => Run.rendered r settings.render

/-- A run is what it renders, read and printed compactly. -/
theorem run_eq_rendered (w : World) : w.run = w.rendered >>= Run.compacted := by
  cases loads : w.settings with
  | error e =>
    have failed : (Settings.load w.surroundings).run = .error e := loads
    simp only [run,Placard.run,Id.run_bind,failed,rendered,loads]
    rfl
  | ok settings =>
    rw [run_eq loads]
    cases located : settings.source.location with
    | error e =>
      simp only [outcome,rendered,loads,located]
      rfl
    | ok location =>
      simp only [outcome,rendered,loads,located]
      rcases w.setUp settings location with ⟨_ | _,r⟩
      · rfl
      · exact Run.payload_eq_rendered r settings.render

/-- A run that does not succeed prints nothing. One that does prints one line, the compact form of
what it renders. If that has whole numbers alone, the line is read as the same document, and reading
and printing it again changes nothing. -/
theorem printed_line (w : World) :
    let finished := Finished.of w.run
    (finished.exitCode ≠ 0 → finished.printed = "") ∧
    (finished.exitCode = 0 → ∃ text line, w.rendered = .ok text ∧ Run.compacted text = .ok line ∧
      finished.printed = line ++ "\n" ∧ '\n' ∉ line.toList ∧
      (Json.WholeNumbers text → Run.compacted line = .ok line ∧
        ∃ document, Json.parse text = .ok document ∧ Json.parse line = .ok document)) := by
  cases ran : w.run with
  | error e => exact ⟨fun _ => rfl,fun zero => absurd zero e.exitCode_ne_zero⟩
  | ok line =>
    refine ⟨fun other => absurd rfl other,fun _ => ?_⟩
    rw [run_eq_rendered] at ran
    obtain ⟨text,rendered,made⟩ := bind_eq_ok_iff.mp ran
    obtain ⟨document,parsed,rfl⟩ := Run.compacted_eq_ok_iff.mp made
    refine ⟨text,document.compact,rendered,made,rfl,document.compact_one_line,fun whole => ?_⟩
    have again := Json.parse_compact_of_parse whole parsed
    exact ⟨Run.compacted_eq_ok_iff.mpr ⟨document,again,rfl⟩,document,parsed,again⟩

/-- A world with one event, whose template spreads a list over lines and has a zero with a minus. -/
def spreadOut : World :=
  ofTexts
    [("config/default.json",
        "\x7b\"render\":\x7b\"template_type\":\"liquid\",\"source_type\":\"disk\"\x7d\x7d"),
      ("./TransformerConfig.json","[[\"liquid\",\"disk\",\"list\",null]]"),
      ("./EventTemplate/liquid/list","[ 1,\n -0, \"a\\u000ab\" ]\n")]
    []

theorem printed_line_joins_lines :
    Finished.of spreadOut.run = ⟨0,"[1,-0.0,\"a\\nb\"]\n"⟩ ∧
      ∃ text line, spreadOut.rendered = .ok text ∧ Json.WholeNumbers text ∧
        (Finished.of spreadOut.run).printed = line ++ "\n" ∧ '\n' ∉ line.toList ∧
        Run.compacted line = .ok line ∧
        ∃ document, Json.parse text = .ok document ∧ Json.parse line = .ok document := by
  have finished : Finished.of spreadOut.run = ⟨0,"[1,-0.0,\"a\\nb\"]\n"⟩ := by decide +kernel
  obtain ⟨text,line,rendered,-,printed,single,exactly⟩ :=
    (printed_line spreadOut).2 (congrArg Finished.exitCode finished)
  have whole : ∀ text ∈ spreadOut.rendered.toOption, Json.WholeNumbers text := by decide +kernel
  have whole := whole text (toOption_eq_some_iff.mpr rendered)
  exact ⟨finished,text,line,rendered,whole,printed,single,exactly whole⟩

end World
end Placard
