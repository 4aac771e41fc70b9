import Placard.Proofs.Handlebars.Printing
import Placard.Proofs.Handlebars.Reading
import Placard.Proofs.Liquid.Compiling
import Placard.Proofs.Liquid.Printing
import Placard.Proofs.Registry.Rendering

/-! Texts that no tag opens in. Either language takes such a text whatever it holds otherwise, and
renders it as it stands, whatever the data and the extensions; only a line end at the very end is
taken off when the text is registered. -/
namespace Placard

def finalNewline (text : String) : String :=
  if ['\r','\n'] <:+ text.toList then "\r\n" else if ['\n'] <:+ text.toList then "\n" else ""

/-- One line end is taken off, and nothing else. -/
theorem withoutFinalNewline_append (text : String) :
    withoutFinalNewline text ++ finalNewline text = text := by
  have front : text.toList = text.toList.reverse.reverse := text.toList.reverse_reverse.symm
  have turned (w : List Char) : w <:+ text.toList ↔ w.reverse <+: text.toList.reverse :=
    List.reverse_prefix.symm
  rw [← String.toList_inj,String.toList_append,withoutFinalNewline,String.toList_ofList,finalNewline]
  simp only [turned]
  conv_rhs => rw [front]
  cases text.toList.reverse with
  | nil => simp
  | cons c back =>
    rcases eq_or_ne c '\n' with rfl | line
    · cases back with
      | nil => simp
      | cons d back =>
        rcases eq_or_ne d '\r' with rfl | carriage
        · simp
        · simp [carriage,carriage.symm]
    · simp [line,line.symm]

/-- No tag of either language opens in the text. -/
structure Tagless (s : List Char) : Prop where
  unprinted : ¬ ['{','{'] <:+: s
  untagged : ¬ ['{','%'] <:+: s

theorem Tagless.of_append {s t : List Char} (tagless : Tagless (s ++ t)) : Tagless s where
  unprinted found := tagless.unprinted (found.trans (List.prefix_append s t).isInfix)
  untagged found := tagless.untagged (found.trans (List.prefix_append s t).isInfix)

theorem Handlebars.render_textNodes (settings : Settings) {templates : List (String × Template)}
    {id : String} {s : List Char} (held : templates.lookup id = some (textNodes s)) (data : Json) :
    render settings templates id data = .ok (String.ofList s) := by
  by_cases empty : s = []
  · subst empty
    exact render_of_prints [] held (List.forall_mem_nil _)
  · rw [textNodes,if_neg empty] at held
    exact render_of_prints [(_,String.ofList s)] held
      (List.forall_mem_singleton.mpr (prints_text _))

theorem Liquid.render_textNodes (x : Extensions) (s : List Char) {fields : List (String × Json)}
    (numbers : Json.Each Fits (.obj fields)) :
    render ⟨x,textNodes s⟩ (.obj fields) = .ok (String.ofList s) := by
  obtain ⟨taken,fits⟩ := Value.exists_ofFields? numbers
  by_cases empty : s = []
  · subst empty
    exact render_of_prints [] fits (List.forall_mem_nil _)
  · rw [textNodes,if_neg empty]
    exact render_of_prints [(_,String.ofList s)] fits
      (List.forall_mem_singleton.mpr (prints_text _))

namespace Engine

def literal (s : List Char) : Engine → Compiled
  | handlebars _ => .handlebars (Handlebars.textNodes s)
  | liquid e => .liquid ⟨e.extensions,Liquid.textNodes s⟩

theorem compile?_tagless (e : Engine) {s : List Char} (tagless : Tagless s) :
    e.compile? (String.ofList s) = some (e.literal s) := by
  cases e with
  | handlebars e =>
    rw [compile?,Handlebars.compile?_text tagless.unprinted]
    rfl
  | liquid e =>
    rw [compile?,Liquid.compile?_text tagless.unprinted tagless.untagged]
    rfl

theorem renderCompiled_literal (e : Engine) (s : List Char) (id : String)
    {fields : List (String × Json)} (numbers : Json.Each Liquid.Fits (.obj fields)) :
    e.renderCompiled id (.obj fields) (e.literal s) = .ok (String.ofList s) := by
  cases e with
  | handlebars e =>
    have held : ((id,Handlebars.textNodes s) :: e.templates).lookup id =
        some (Handlebars.textNodes s) := List.lookup_cons_self
    have rendered := Handlebars.render_textNodes e.settings held (.obj fields)
    simp [literal,renderCompiled,HandlebarsEngine.apply,held,rendered]
  | liquid e =>
    have rendered := Liquid.render_textNodes e.extensions s numbers
    simp [literal,renderCompiled,LiquidEngine.apply,rendered]

end Engine

namespace Registry

/-- A text without tags can be registered under any key of an engine that is there, and from then on
the key renders the text without the line end at its end, for any object. -/
theorem registerText_tagless {r : Registry} {l : Language} (configured : (r.engine? l).isSome)
    (key : String) {text : String} (tagless : Tagless text.toList) :
    ∃ kept again r', text = kept ++ finalNewline text ∧ r.registerText l key text = .ok (again,r') ∧
      ∀ fields, Json.Each Liquid.Fits (.obj fields) → r'.apply l key (.obj fields) = .ok kept := by
  obtain ⟨e,found⟩ := Option.isSome_iff_exists.mp configured
  have split := withoutFinalNewline_append text
  have plain : Tagless (withoutFinalNewline text).toList := by
    rw [← split,String.toList_append] at tagless
    exact tagless.of_append
  have compiles : r.compile? l (withoutFinalNewline text) =
      some (e.literal (withoutFinalNewline text).toList) := by
    rw [compile?,found,Option.bind_some,← e.compile?_tagless plain,String.ofList_toList]
  rcases registered : r.registerText l key text with err | ⟨again,r'⟩
  · rcases registerText_error_iff.mp registered with ⟨missing,-⟩ | ⟨-,fails,-⟩
    · simp [found] at missing
    · simp [compiles] at fails
  obtain ⟨c,compiled,stored⟩ := registerText_ok registered
  refine ⟨_,again,r',split.symm,rfl,fun fields numbers => ?_⟩
  have held : r'.compiled? l key = some c := by
    rw [stored.compiled,if_pos ⟨rfl,rfl⟩]
  obtain ⟨e',found',held⟩ := Option.bind_eq_some_iff.mp held
  have same : c = e'.literal (withoutFinalNewline text).toList := by
    rw [← compile?_of_bare (stored.bare l),compile?,found',Option.bind_some] at compiled
    have literal := e'.compile?_tagless plain
    rw [String.ofList_toList,compiled] at literal
    exact Option.some.inj literal
  rw [apply_eq_of_engine? found',Engine.apply_eq,held,same]
  simpa using e'.renderCompiled_literal (withoutFinalNewline text).toList key numbers

def jotting : String := " a\x7b b\\ \x7d\r\r\n"

theorem tagless_text_keeps_braces :
    ∃ again r', (standard true Language.all).registerText .liquid "k" jotting = .ok (again,r') ∧
      r'.apply .liquid "k" (.obj []) = .ok " a\x7b b\\ \x7d\r" := by
  have tagless : Tagless jotting.toList := ⟨by decide,by decide⟩
  have empty : Json.Each Liquid.Fits (.obj []) := (Liquid.Value.isSome_ofJson?_iff _).mp rfl
  obtain ⟨kept,again,r',split,registered,renders⟩ :=
    registerText_tagless (r := standard true Language.all) (l := .liquid) rfl "k" tagless
  have whole : (" a\x7b b\\ \x7d\r" ++ "\r\n").toList = (kept ++ "\r\n").toList := congrArg _ split
  rw [String.toList_append,String.toList_append] at whole
  have same := String.toList_injective (List.append_cancel_right whole)
  exact ⟨again,r',registered,same ▸ renders [] empty⟩

end Registry

end Placard
