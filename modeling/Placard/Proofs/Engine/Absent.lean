import Placard.Proofs.Engine.HelperCall

/-! A title that the data may lack, passed to a helper alone. Liquid looks a variable up before any
filter sees it; Handlebars hands its helpers what a path leads to, and null where it leads nowhere. -/
namespace Placard

def titleText (name : String) : Language → String
  | .handlebars => "\x7b\x7b" ++ name ++ " title\x7d\x7d"
  | .liquid => "\x7b\x7b title | " ++ name ++ " \x7d\x7d"

namespace Handlebars

def soleCall (name : String) : Call := ⟨name,[.path ⟨"title",.block 0,["title"]⟩],[]⟩

theorem arguments_title (fuel : Nat) :
    arguments (fuel + 3) " title\x7d\x7d".toList =
      ([.placed (.path ⟨"title",.block 0,["title"]⟩)],['}','}']) := by
  have value := argument?_placed (show Text.isIdentifier "title".toList by decide) (by decide)
    (show endsPath ['}','}'] by decide) (by decide) fuel
  rw [pathOf_single] at value
  rw [arguments_some (s := " title\x7d\x7d".toList) value,arguments_close]

theorem compile?_titleText {name : String} (identifier : Text.isIdentifier name.toList)
    (plain : ¬ "else".toList <+: name.toList) :
    compile? (titleText name .handlebars) = some [.call ⟨1,1⟩ (soleCall name)] := by
  have text : titleText name .handlebars =
      String.ofList ('{' :: '{' :: (name.toList ++ " title\x7d\x7d".toList)) := by
    rw [← String.toList_inj]
    simp [titleText]
  have given : ∀ fuel, 5 * " title\x7d\x7d".toList.length ≤ fuel →
      arguments fuel " title\x7d\x7d".toList =
        ([.placed (.path ⟨"title",.block 0,["title"]⟩)],'}' :: '}' :: []) := by
    intro fuel deep
    obtain ⟨more,rfl⟩ := Nat.exists_eq_add_of_le' (Nat.le_trans (show 3 ≤ _ by decide) deep)
    exact arguments_title more
  have read := tag?_call identifier plain (by decide) given
  rw [String.ofList_toList] at read
  rw [text]
  exact compile?_call identifier read

/-- The helper is given null for a title that is not there. -/
theorem render_soleCall {s : Settings} {name : String} {h : Helper}
    (registered : s.helpers.lookup name = some h) {templates : List (String × Template)} {id : String}
    (held : templates.lookup id = some [.call ⟨1,1⟩ (soleCall name)])
    (fields : List (String × Json)) :
    render s templates id (.obj fields) =
      match h ((fields.lookup "title").getD .null) [] with
      | .ok v => .ok (printed v)
      | .error m => .error (.failed ⟨.refused name m,some ⟨1,1⟩,some id⟩) := by
  have finds : (soleCall name).find s (.ofData (.obj fields)) =
      .ok ⟨name,[⟨fields.lookup "title",some "title"⟩],[]⟩ := by
    have first := find_field fields "title" "title"
    simp [Call.find,soleCall,findTerms,findTerm,findNamed,first,Bind.bind,Except.bind,Pure.pure,
      Except.pure,Except.map]
  exact render_registered finds registered held

end Handlebars

namespace Liquid

def soleChain (name : String) : Chain := ⟨.variable "title" [],[⟨name,[],[]⟩]⟩

theorem compile?_titleText {x : Extensions} {name : String} {h : Helper}
    (identifier : Text.isIdentifier name.toList) (registered : x.filters.lookup name = some h) :
    compile? x (titleText name .liquid) = some ⟨x,[.output (soleChain name)]⟩ := by
  have text : titleText name .liquid = String.ofList ('{' :: '{' :: ' ' :: ("title".toList ++
      ' ' :: '|' :: ' ' :: (name.toList ++ [' ','}','}']))) := by
    rw [← String.toList_inj]
    simp [titleText]
  have filter := filter?_plain identifier (show endsName [' ','}','}'] by decide) (by decide)
  have read := output?_filtered (show Text.isIdentifier "title".toList by decide) (by decide)
    identifier filter
  have known : (soleChain name).known? x = some (soleChain name) := by
    simp [Chain.known?,soleChain,FilterCall.known,registered]
  simp only [String.ofList_toList,variableOf_single] at read
  rw [text]
  exact compile?_output read known

/-- Without the title nothing is rendered; data that cannot be taken over is refused before that. -/
theorem render_soleChain_absent (x : Extensions) (name : String) {fields : List (String × Json)}
    (absent : fields.lookup "title" = none) :
    ∃ reason, render ⟨x,[.output (soleChain name)]⟩ (.obj fields) = .error reason := by
  cases fits : Value.ofFields? fields with
  | none =>
    refine ⟨.numberTooLarge,?_⟩
    simp [render,dataFields,fits,Bind.bind,Except.bind]
  | some taken =>
    refine ⟨.unknownVariable,?_⟩
    rw [render_output fits,soleChain,Chain.eval,eval_absent fits absent]
    rfl

end Liquid

namespace Engine

def callTitle (id name : String) (data : Json) (e : Engine) : Except TemplateError String :=
  e.renderText id (titleText name e.language) data

theorem callTitle_handlebars {e : HandlebarsEngine} {name : String} {h : Helper}
    (identifier : Text.isIdentifier name.toList) (plain : ¬ "else".toList <+: name.toList)
    (registered : (handlebars e).helper? name = some h) (id : String)
    (fields : List (String × Json)) :
    (handlebars e).callTitle id name (.obj fields) =
      printAnswer id name .handlebars (h ((fields.lookup "title").getD .null) []) := by
  have held : ((id,[.call ⟨1,1⟩ (Handlebars.soleCall name)]) :: e.templates).lookup id = some _ :=
    List.lookup_cons_self
  have rendered := Handlebars.render_soleCall registered held fields
  rw [callTitle,language,renderText_handlebars e (Handlebars.compile?_titleText identifier plain) rfl,
    rendered]
  cases h ((fields.lookup "title").getD .null) [] <;> rfl

theorem refuses_callTitle_liquid {e : LiquidEngine} {name : String} {h : Helper}
    (identifier : Text.isIdentifier name.toList) (registered : (liquid e).helper? name = some h)
    (id : String) {fields : List (String × Json)} (absent : fields.lookup "title" = none) :
    Refuses ((liquid e).callTitle id name (.obj fields)) := by
  obtain ⟨reason,fails⟩ := Liquid.render_soleChain_absent e.extensions name absent
  rw [callTitle,language,renderText_liquid e (Liquid.compile?_titleText identifier registered),fails]
  exact ⟨.liquid reason,rfl⟩

/-- Of the helpers that every engine starts with, all but two refuse null. -/
theorem builtin_null {helper : String × Helper} (builtin : helper ∈ Helper.builtin) :
    (∃ m, helper.2 .null [] = .error m) ↔ helper.1 ∉ ["json","or_default"] := by
  simp only [Helper.builtin,List.mem_cons,List.not_mem_nil,or_false] at builtin
  rcases builtin with rfl | rfl | rfl | rfl | rfl | rfl <;>
    simp [Helper.onText,Helper.json,Helper.orDefault]

theorem refuses_printAnswer_iff (id name : String) (answer : Except String Json) :
    Refuses (printAnswer id name .handlebars answer) ↔ ∃ m, answer = .error m := by
  cases answer with
  | ok v => simp [Refuses,printAnswer]
  | error m => exact iff_of_true (refuses_printAnswer id name m _) ⟨m,rfl⟩

/-- A title that is missing, passed to a helper. Liquid refuses to render it, whatever the helper does.
Handlebars calls the helper with null, strict or not, and prints its answer: of the helpers that every
engine starts with the ones for texts refuse null, and the other two print it as JSON or as nothing. -/
theorem callTitle_absent {fields : List (String × Json)} (absent : fields.lookup "title" = none)
    (id : String) :
    (∀ (e : LiquidEngine) (name : String) (h : Helper), Text.isIdentifier name.toList →
      (liquid e).helper? name = some h → Refuses ((liquid e).callTitle id name (.obj fields))) ∧
    (∀ (e : HandlebarsEngine) (name : String) (h : Helper), Text.isIdentifier name.toList →
      ¬ "else".toList <+: name.toList → (handlebars e).helper? name = some h →
      (handlebars e).callTitle id name (.obj fields) =
        printAnswer id name .handlebars (h .null [])) ∧
    (∀ helper ∈ Helper.builtin, ∀ strict l,
      Refuses ((standard strict l).callTitle id helper.1 (.obj fields)) ↔
        l = .liquid ∨ helper.1 ∉ ["json","or_default"]) ∧
    ∀ strict, (standard strict .handlebars).callTitle id "json" (.obj fields) = .ok "null" ∧
      (standard strict .handlebars).callTitle id "or_default" (.obj fields) = .ok "" := by
  have given {e : HandlebarsEngine} {name : String} {h : Helper}
      (identifier : Text.isIdentifier name.toList) (plain : ¬ "else".toList <+: name.toList)
      (registered : (handlebars e).helper? name = some h) :
      (handlebars e).callTitle id name (.obj fields) =
        printAnswer id name .handlebars (h .null []) := by
    have called := callTitle_handlebars identifier plain registered id fields
    rwa [absent,Option.getD_none] at called
  have answered (helper : String × Helper) (builtin : helper ∈ Helper.builtin) (strict : Bool) :
      (standard strict .handlebars).callTitle id helper.1 (.obj fields) =
        printAnswer id helper.1 .handlebars (helper.2 .null []) :=
    given (plain_builtin helper builtin).1 (plain_builtin helper builtin).2
      (helper?_standard strict .handlebars builtin)
  refine ⟨?_,fun e name h => given,?_,fun strict => ⟨?_,?_⟩⟩
  · intro e name h identifier registered
    exact refuses_callTitle_liquid identifier registered id absent
  · intro helper builtin strict l
    cases l with
    | liquid =>
      have registered := helper?_standard strict .liquid builtin
      have identifier := (plain_builtin helper builtin).1
      exact iff_of_true (refuses_callTitle_liquid identifier registered id absent) (.inl rfl)
    | handlebars =>
      rw [answered helper builtin,refuses_printAnswer_iff,builtin_null builtin]
      simp
  · exact answered ("json",Helper.json) (by simp [Helper.builtin]) strict
  · exact answered ("or_default",Helper.orDefault) (by simp [Helper.builtin]) strict

/-- A list and a name, and no title. -/
theorem absent_title_refused_or_null :
    visitor.lookup "title" = none ∧
    Refuses ((standard true .liquid).callTitle "a" "json" (.obj visitor)) ∧
    Refuses ((standard true .handlebars).callTitle "a" "uppercase" (.obj visitor)) ∧
    (standard true .handlebars).callTitle "a" "json" (.obj visitor) = .ok "null" := by
  obtain ⟨-,-,builtin,answers⟩ := callTitle_absent (show visitor.lookup "title" = none from rfl) "a"
  refine ⟨rfl,?_,?_,(answers true).1⟩
  · exact (builtin ("json",Helper.json) (by simp [Helper.builtin]) true .liquid).mpr (.inl rfl)
  · exact (builtin ("uppercase",_) List.mem_cons_self true .handlebars).mpr (.inr (by decide))

/-- A strict engine renders a payload from nothing. -/
theorem absent_title_printed_as_null :
    (standard true .handlebars).callTitle "t" "json" (.obj []) = .ok "null" ∧
    ¬ Refuses ((standard true .handlebars).callTitle "t" "json" (.obj [])) := by
  have printed : (standard true .handlebars).callTitle "t" "json" (.obj []) = .ok "null" := by cbv
  exact ⟨printed,by simp [Refuses,printed]⟩

end Engine
end Placard
