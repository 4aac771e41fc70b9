import Placard.Proofs.Engine
import Placard.Proofs.Handlebars.Printing
import Placard.Proofs.Handlebars.Reading
import Placard.Proofs.Liquid.Compiling
import Placard.Proofs.Liquid.Printing

/-! Variables in either language. A path of names leads through the fields of objects; where it leads
nowhere both languages refuse to render it, and what it leads to they print alike. -/
namespace Placard

def Json.reach? : List String → Json → Option Json
  | [],v => some v
  | name :: rest,v => (v.field? name).bind (reach? rest)

def Json.scalarText? : Json → Option String
  | .null => some ""
  | .bool b => some (toString b)
  | .int i => some (toString i)
  | .str s => some s
  | _ => none

def dotted (first : String) (names : List String) : String := ".".intercalate (first :: names)

def lookupText (first : String) (names : List String) : Language → String
  | .handlebars => "\x7b\x7b" ++ dotted first names ++ "\x7d\x7d"
  | .liquid => "\x7b\x7b " ++ dotted first names ++ " \x7d\x7d"

/-- The names mean nothing but fields in either language. -/
structure PlainPath (first : String) (names : List String) : Prop where
  identifiers : ∀ n ∈ first :: names, Text.isIdentifier n.toList
  notHere : ∀ n ∈ first :: names, n ≠ "this"
  /-- A name alone opens no other branch. -/
  notElse : names = [] → ¬ "else".toList <+: first.toList
  noLiteral : Liquid.isVariable first.toList
  noMeasure : ∀ n ∈ names, n ∉ ["size","first","last"]

theorem dotted_toList (first : String) (names : List String) :
    (dotted first names).toList = first.toList ++ Text.afterPoints (names.map String.toList) := by
  rw [dotted,String.toList_intercalate,List.map_cons]
  generalize first.toList = c
  generalize names.map String.toList = rest
  induction rest generalizing c with
  | nil => simp
  | cons n rest ih =>
    rw [List.intercalate_cons_cons,ih,Text.afterPoints_cons]
    simp

namespace Handlebars

theorem index?_identifier {name : String} (identifier : Text.isIdentifier name.toList) :
    index? name = none := by
  obtain ⟨c,tail,spelled,starts,-⟩ := Text.exists_of_identifier identifier
  have plus : Text.after? ['+'] (c :: tail) = none := after?_none_of_starts starts rfl [] tail
  simp [index?,spelled,plus,Text.isDigit_of_starts starts]

theorem follow_reach? {names : List String} (identifiers : ∀ n ∈ names, Text.isIdentifier n.toList)
    (v : Json) : (follow names v).toOption.join = v.reach? names := by
  induction names generalizing v with
  | nil => rfl
  | cons name names ih =>
    obtain ⟨identifier,others⟩ := List.forall_mem_cons.mp identifiers
    by_cases list : ∃ items, v = .arr items
    · obtain ⟨items,rfl⟩ := list
      simp [follow,stepInto,index?_identifier identifier,Json.reach?,Json.field?,Except.toOption]
    · have step : stepInto name v = .ok (v.field? name) := by
        cases v with
        | arr items => exact absurd ⟨items,rfl⟩ list
        | _ => rfl
      cases found : v.field? name with
      | none => simp [follow,step,found,Json.reach?,Except.toOption]
      | some next => simpa [follow,step,found,Json.reach?] using ih others next

/-- In strict mode a path that names no helper prints what it leads to, or fails. -/
theorem printTerm_path {s : Settings} (strict : s.strict) {p : Path} (free : s.callee? p.written = none)
    (scope : Scope) :
    printTerm s scope (.path p) =
      (scope.find p).bind fun
        | some v => .ok (.text (printed v))
        | none => .error (.missing (some p.written)) := by
  cases found : scope.find p with
  | error e =>
    simp [printTerm,free,findTerm,found,Bind.bind,Except.bind,Pure.pure,Except.pure,Except.map]
  | ok v =>
    cases v <;> cases substitute : s.helpers.lookup substituteHelper <;>
      simp [printTerm,free,findTerm,found,substitute,strict,textOf,Bind.bind,Except.bind,Pure.pure,
        Except.pure,Except.map]

theorem find_pathOf (first : List Char) (names : List (List Char)) (data : Json) :
    (Scope.ofData data).find (pathOf first names) =
      follow ((first :: names).map String.ofList) data := by
  simp [Scope.find,Scope.ofData,Scope.bound?,Scope.base,pathOf]

/-- A path alone prints what the names lead to; where they lead nowhere it fails. -/
theorem render_path {s : Settings} (strict : s.strict) {first : String} {names : List String}
    (identifiers : ∀ n ∈ first :: names, Text.isIdentifier n.toList)
    (free : s.callee? (dotted first names) = none) {templates : List (String × Template)} {id : String}
    {place : Position}
    (held : templates.lookup id =
      some [.value place (.path (pathOf first.toList (names.map String.toList)))])
    (data : Json) :
    (render s templates id data).toOption = (data.reach? (first :: names)).map printed := by
  have written : (pathOf first.toList (names.map String.toList)).written = dotted first names := by
    rw [pathOf,← dotted_toList,String.ofList_toList]
  have steps : (first.toList :: names.map String.toList).map String.ofList = first :: names := by
    simp
  have leads := follow_reach? identifiers data
  have prints := printTerm_path strict (written ▸ free) (.ofData data)
  rw [find_pathOf,steps] at prints
  rw [render_single held,renderNode,prints,← leads]
  rcases follow (first :: names) data with _ | _ | v
  · rfl
  · rfl
  · simp [blamed,Except.map,Except.mapError,Except.bind,Except.toOption,Page.print,Page.text_write,
      Page.blank]

theorem compile?_lookup {first : String} {names : List String} (plain : PlainPath first names) :
    compile? (lookupText first names .handlebars) =
      some [.value ⟨1,1⟩ (.path (pathOf first.toList (names.map String.toList)))] := by
  have identifiers : ∀ n ∈ first.toList :: names.map String.toList,
      Text.isIdentifier n ∧ n ≠ ['t','h','i','s'] := by
    rw [← List.map_cons]
    refine List.forall_mem_map.mpr fun n member => ⟨plain.identifiers n member,fun same => ?_⟩
    exact plain.notHere n member (String.toList_injective same)
  have text : lookupText first names .handlebars = String.ofList ('{' :: '{' :: (first.toList ++
      (Text.afterPoints (names.map String.toList) ++ ['}','}']))) := by
    rw [← String.toList_inj]
    simp [lookupText,dotted_toList]
  have read := tag?_path identifiers (fun alone => plain.notElse (List.map_eq_nil_iff.mp alone)) []
  rw [List.append_assoc] at read
  rw [text]
  exact compile?_value (plain.identifiers first List.mem_cons_self) read

end Handlebars

namespace Liquid

theorem int64OfText?_identifier {name : String} (identifier : Text.isIdentifier name.toList) :
    Double.int64OfText? name = none := by
  obtain ⟨c,tail,spelled,starts,-⟩ := Text.exists_of_identifier identifier
  have unsigned : Double.splitSign (c :: tail) = (false,c :: tail) := by
    simp [Double.splitSign,Text.ne_of_starts starts (d := '-') rfl,
      Text.ne_of_starts starts (d := '+') rfl]
  simp [Double.int64OfText?,spelled,unsigned,Double.digits?,Text.isDigit_of_starts starts]

theorem step?_name {name : String} (identifier : Text.isIdentifier name.toList)
    (plain : name ∉ ["size","first","last"]) {v : Json} {u : Value} (made : Value.ofJson? v = some u) :
    u.step? (.str name) = (v.field? name).bind Value.ofJson? := by
  simp only [List.mem_cons,List.not_mem_nil,or_false,not_or] at plain
  obtain ⟨size,first,last⟩ := plain
  cases v with
  | null | bool | float | str =>
    cases made
    simp [Value.step?,Value.printed,size,Json.field?]
  | int i =>
    simp only [Value.ofJson?,Option.ite_none_right_eq_some,Option.some.injEq] at made
    obtain ⟨-,rfl⟩ := made
    simp [Value.step?,Value.printed,size,Json.field?]
  | arr items =>
    obtain ⟨taken,-,rfl⟩ := Option.map_eq_some_iff.mp made
    simp [Value.step?,Value.toInt?,int64OfText?_identifier identifier,Value.printed,Json.field?]
  | obj fields =>
    obtain ⟨taken,within,rfl⟩ := Option.map_eq_some_iff.mp made
    have found := Value.lookup_ofFields? within name
    cases here : (fields.lookup name).bind Value.ofJson? <;>
      simp [Value.step?,Value.printed,size,Json.field?,found,here]

/-- With a value its fields are taken over. -/
theorem exists_ofJson?_field {name : String} {v next : Json} {u : Value}
    (made : Value.ofJson? v = some u) (found : v.field? name = some next) :
    ∃ w, Value.ofJson? next = some w := by
  cases v with
  | obj fields =>
    have fits := (Value.isSome_ofJson?_iff _).mp (Option.isSome_of_mem made)
    exact Option.isSome_iff_exists.mp ((Value.isSome_ofJson?_iff next).mpr (fits.field found))
  | _ => cases found

theorem follow?_reach? {names : List String} (identifiers : ∀ n ∈ names, Text.isIdentifier n.toList)
    (plain : ∀ n ∈ names, n ∉ ["size","first","last"]) {v : Json} {u : Value}
    (made : Value.ofJson? v = some u) :
    u.follow? (names.map .str) = (v.reach? names).bind Value.ofJson? := by
  induction names generalizing v u with
  | nil => exact made.symm
  | cons name names ih =>
    obtain ⟨identifier,others⟩ := List.forall_mem_cons.mp identifiers
    obtain ⟨measures,free⟩ := List.forall_mem_cons.mp plain
    rw [List.map_cons,Value.follow?,step?_name identifier measures made,Json.reach?]
    cases found : v.field? name with
    | none => rfl
    | some next =>
      obtain ⟨w,taken⟩ := exists_ofJson?_field made found
      simpa [taken] using ih others free taken

theorem evalSteps_names (scope : Scope) (store : Store) (names : List (List Char)) :
    evalSteps scope store (names.map fun n => .literal (.str (String.ofList n))) =
      .ok ((names.map String.ofList).map .str) := by
  induction names with
  | nil => rfl
  | cons n names ih =>
    simp [evalSteps,Expression.eval,Value.isScalar,ih,Bind.bind,Except.bind,Pure.pure,Except.pure]

theorem lookupText_toList (first : String) (names : List String) :
    (lookupText first names .liquid).toList = '{' :: '{' :: ' ' :: (first.toList ++
      Text.afterPoints (names.map String.toList) ++ [' ','}','}']) := by
  simp [lookupText,dotted_toList]

/-- A variable that the template has not set leads where the fields of the data lead. -/
theorem eval_variableOf {first : String} {names : List String} (plain : PlainPath first names)
    {x : Extensions} {fields : List (String × Json)} {taken : Fields}
    (fits : Value.ofFields? fields = some taken) :
    ((variableOf first.toList (names.map String.toList)).eval ⟨x,[],taken⟩ .empty).toOption =
      (Json.reach? (first :: names) (.obj fields)).bind Value.ofJson? := by
  have identifiers : ∀ n ∈ names, Text.isIdentifier n.toList := fun n member =>
    plain.identifiers n (List.mem_cons_of_mem _ member)
  have steps := evalSteps_names ⟨x,[],taken⟩ .empty (names.map String.toList)
  have back : (names.map String.toList).map String.ofList = names := by simp
  rw [back] at steps
  have whole : Value.ofJson? (.obj fields) = some (.obj taken) := by
    rw [Value.ofJson?,fits,Option.map_some]
  rw [variableOf,String.ofList_toList,Expression.eval,steps,Json.reach?,Json.field?]
  simp only [Bind.bind,Except.bind,Scope.find,root?_data x fits]
  cases found : fields.lookup first with
  | none => rfl
  | some v =>
    obtain ⟨u,made⟩ := exists_ofJson?_field whole found
    have leads := follow?_reach? identifiers plain.noMeasure made
    simp only [Option.bind_some,made,leads]
    cases (Json.reach? names v).bind Value.ofJson? <;> rfl

theorem compile?_lookup {first : String} {names : List String} (plain : PlainPath first names)
    (x : Extensions) :
    compile? x (lookupText first names .liquid) =
      some ⟨x,[.output ⟨variableOf first.toList (names.map String.toList),[]⟩]⟩ := by
  have identifiers : ∀ n ∈ first.toList :: names.map String.toList, Text.isIdentifier n := by
    rw [← List.map_cons]
    exact List.forall_mem_map.mpr plain.identifiers
  rw [← String.ofList_toList (s := lookupText first names .liquid),lookupText_toList]
  exact compile?_output (output?_path identifiers plain.noLiteral []) rfl

theorem render_path {first : String} {names : List String} (plain : PlainPath first names)
    (x : Extensions) {fields : List (String × Json)}
    (numbers : Json.Each Fits (.obj fields)) :
    (render ⟨x,[.output ⟨variableOf first.toList (names.map String.toList),[]⟩]⟩
        (.obj fields)).toOption =
      ((Json.reach? (first :: names) (.obj fields)).bind Value.ofJson?).map Value.printed := by
  obtain ⟨taken,fits⟩ := Value.exists_ofFields? numbers
  rw [render_output fits,← eval_variableOf plain (x := x) fits,Chain.eval]
  cases (variableOf first.toList (names.map String.toList)).eval ⟨x,[],taken⟩ .empty <;> rfl

end Liquid

theorem printed_of_scalarText? {v : Json} {text : String} (scalar : v.scalarText? = some text) :
    Handlebars.printed v = text := by
  cases v with
  | bool b =>
    cases scalar
    cases b <;> rfl
  | int i =>
    cases scalar
    exact String.ofList_toList
  | null | str =>
    cases scalar
    rfl
  | _ => cases scalar

theorem printed_of_ofJson? {v : Json} {u : Liquid.Value} (made : Liquid.Value.ofJson? v = some u)
    {text : String} (scalar : v.scalarText? = some text) : u.printed = text := by
  cases v with
  | int i =>
    simp only [Liquid.Value.ofJson?,Option.ite_none_right_eq_some,Option.some.injEq] at made
    obtain ⟨-,rfl⟩ := made
    cases scalar
    rfl
  | null | bool | str =>
    cases made
    cases scalar
    rfl
  | _ => cases scalar

namespace Engine

def Refuses (r : Except TemplateError String) : Prop := ∃ cause, r = .error (.renderFailed cause)

def printPath (id first : String) (names : List String) (data : Json) (e : Engine) :
    Except TemplateError String :=
  e.renderText id (lookupText first names e.language) data

theorem refuses_of_toOption {r : Except ε String} (failed : r.toOption = none)
    (cause : ε → RenderFailure) : Refuses (r.mapError fun x => .renderFailed (cause x)) := by
  cases r with
  | error x => exact ⟨cause x,rfl⟩
  | ok t => cases failed

theorem printPath_handlebars {e : HandlebarsEngine} (strict : e.settings.strict) {first : String}
    {names : List String} (plain : PlainPath first names)
    (free : e.settings.callee? (dotted first names) = none) (id : String) (data : Json) :
    ∃ r : Except Handlebars.Stop String,
      (handlebars e).printPath id first names data =
        r.mapError (fun stop => .renderFailed (.ofStop stop)) ∧
      r.toOption = (data.reach? (first :: names)).map Handlebars.printed :=
  ⟨_,renderText_handlebars e (Handlebars.compile?_lookup plain) rfl id data,
    Handlebars.render_path strict plain.identifiers free List.lookup_cons_self data⟩

theorem printPath_liquid (e : LiquidEngine) {first : String} {names : List String}
    (plain : PlainPath first names) {fields : List (String × Json)}
    (numbers : Json.Each Liquid.Fits (.obj fields)) (id : String) :
    ∃ r : Except Liquid.Reason String,
      (liquid e).printPath id first names (.obj fields) =
        r.mapError (fun reason => .renderFailed (.liquid reason)) ∧
      r.toOption = ((Json.reach? (first :: names) (.obj fields)).bind Liquid.Value.ofJson?).map
        Liquid.Value.printed :=
  ⟨_,renderText_liquid e (Liquid.compile?_lookup plain e.extensions) id _,
    Liquid.render_path plain e.extensions numbers⟩

theorem exists_ofJson?_reach? {names : List String} {v w : Json} (numbers : Json.Each Liquid.Fits v)
    (leads : v.reach? names = some w) : ∃ u, Liquid.Value.ofJson? w = some u := by
  induction names generalizing v with
  | nil =>
    cases leads
    exact Option.isSome_iff_exists.mp ((Liquid.Value.isSome_ofJson?_iff _).mpr numbers)
  | cons name names ih =>
    obtain ⟨next,found,later⟩ := Option.bind_eq_some_iff.mp leads
    cases v with
    | obj fields => exact ih (numbers.field found) later
    | _ => cases found

/-- A path alone comes to the same in either language. Where it leads nowhere, because a field is
missing or something on the way has no fields, both engines refuse to render it; elsewhere both render
it, and where it leads to a scalar they render the same text, which is a string as it stands. -/
theorem printPath_alike {e : HandlebarsEngine} (e' : LiquidEngine) (strict : e.settings.strict)
    {first : String} {names : List String} (plain : PlainPath first names)
    (free : e.settings.callee? (dotted first names) = none) {fields : List (String × Json)}
    (numbers : Json.Each Liquid.Fits (.obj fields)) (id id' : String) :
    match Json.reach? (first :: names) (.obj fields) with
    | none =>
      Refuses ((handlebars e).printPath id first names (.obj fields)) ∧
        Refuses ((liquid e').printPath id' first names (.obj fields))
    | some v =>
      ∃ text text', (handlebars e).printPath id first names (.obj fields) = .ok text ∧
        (liquid e').printPath id' first names (.obj fields) = .ok text' ∧
        ∀ scalar, v.scalarText? = some scalar → text = scalar ∧ text' = scalar := by
  obtain ⟨r,prints,rendered⟩ := printPath_handlebars strict plain free id (.obj fields)
  obtain ⟨r',prints',rendered'⟩ := printPath_liquid e' plain numbers id'
  rw [prints,prints']
  cases leads : Json.reach? (first :: names) (.obj fields) with
  | none =>
    rw [leads] at rendered rendered'
    exact ⟨refuses_of_toOption rendered _,refuses_of_toOption rendered' _⟩
  | some v =>
    obtain ⟨u,made⟩ := exists_ofJson?_reach? numbers leads
    rw [leads,Option.map_some,toOption_eq_some_iff] at rendered
    rw [leads,Option.bind_some,made,Option.map_some,toOption_eq_some_iff] at rendered'
    subst rendered rendered'
    exact ⟨_,_,rfl,rfl,fun scalar text =>
      ⟨printed_of_scalarText? text,printed_of_ofJson? made text⟩⟩

def visitor : List (String × Json) :=
  [("tags",.arr [.str "new"]),("user",.obj [("name",.str "<Ann>")])]

theorem printPath_into_object_and_list :
    (∃ text text',
      (handlebars (.empty true)).printPath "a" "user" ["name"] (.obj visitor) = .ok text ∧
      (liquid .empty).printPath "b" "user" ["name"] (.obj visitor) = .ok text' ∧
      ∀ scalar, (Json.str "<Ann>").scalarText? = some scalar → text = scalar ∧ text' = scalar) ∧
    Refuses ((handlebars (.empty true)).printPath "a" "tags" ["name"] (.obj visitor)) ∧
      Refuses ((liquid .empty).printPath "b" "tags" ["name"] (.obj visitor)) := by
  have plain : PlainPath "user" ["name"] := ⟨by decide,by decide,by decide,by decide,by decide⟩
  have plain' : PlainPath "tags" ["name"] := ⟨by decide,by decide,by decide,by decide,by decide⟩
  have numbers : Json.Each Liquid.Fits (.obj visitor) := (Liquid.Value.isSome_ofJson?_iff _).mp rfl
  exact ⟨printPath_alike .empty rfl plain rfl numbers "a" "b",
    printPath_alike .empty rfl plain' rfl numbers "a" "b"⟩

/-- A name alone that begins with the word of the other branch is no variable in the one language, a
name that begins like a literal is none in the other, and a helper may be registered under a path as
it is written. -/
theorem printPath_prefixed_names_apart :
    Text.isIdentifier "elsewhere".toList ∧ Text.isIdentifier "nullable".toList ∧
    (handlebars (.empty true)).printPath "a" "elsewhere" [] (.obj [("elsewhere",.str "x")]) =
      .error (.compileFailed "a") ∧
    (liquid .empty).printPath "a" "elsewhere" [] (.obj [("elsewhere",.str "x")]) = .ok "x" ∧
    (handlebars (.empty true)).printPath "a" "nullable" [] (.obj [("nullable",.str "x")]) = .ok "x" ∧
    (liquid .empty).printPath "a" "nullable" [] (.obj [("nullable",.str "x")]) =
      .error (.compileFailed "a") ∧
    (handlebars ((HandlebarsEngine.empty true).registerHelper "user.name" fun _ _ =>
      .ok (.str "x"))).printPath "a" "user" ["name"] (.obj visitor) = .ok "x" ∧
    (liquid .empty).printPath "a" "user" ["name"] (.obj visitor) = .ok "<Ann>" := by
  refine ⟨by decide,by decide,?_,?_,?_,?_,?_,?_⟩ <;> cbv

end Engine

end Placard
