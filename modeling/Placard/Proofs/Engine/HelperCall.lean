import Placard.Proofs.Engine.Lookup

/-! Helpers in either language. A helper is called by its name with one value and one named argument;
in both languages it is given the same of the data, and what it makes of that is printed or refused. -/
namespace Placard

def callText (name : String) : Language → String
  | .handlebars => "\x7b\x7b" ++ name ++ " title key=alt\x7d\x7d"
  | .liquid => "\x7b\x7b title | " ++ name ++ ": key: alt \x7d\x7d"

namespace Handlebars

def titledCall (name : String) : Call :=
  ⟨name,[.path ⟨"title",.block 0,["title"]⟩],[("key",.path ⟨"alt",.block 0,["alt"]⟩)]⟩

theorem arguments_titled (fuel : Nat) :
    arguments (fuel + 5) " title key=alt\x7d\x7d".toList =
      ([.placed (.path ⟨"title",.block 0,["title"]⟩),
        .named "key" (.path ⟨"alt",.block 0,["alt"]⟩)],['}','}']) := by
  have value := argument?_placed (show Text.isIdentifier "title".toList by decide) (by decide)
    (show endsPath " key=alt\x7d\x7d".toList by decide) (by decide) (fuel + 2)
  have named := argument?_named (show Text.isIdentifier "key".toList by decide)
    (show Text.isIdentifier "alt".toList by decide) (by decide) (show endsPath ['}','}'] by decide) fuel
  rw [pathOf_single] at value named
  have later : arguments (fuel + 4) " key=alt\x7d\x7d".toList =
      ([.named "key" (.path ⟨"alt",.block 0,["alt"]⟩)],['}','}']) := by
    rw [arguments_some (s := " key=alt\x7d\x7d".toList) named,arguments_close]
    rfl
  rw [arguments_some (s := " title key=alt\x7d\x7d".toList) value,later]

theorem compile?_callText {name : String} (identifier : Text.isIdentifier name.toList)
    (plain : ¬ "else".toList <+: name.toList) :
    compile? (callText name .handlebars) = some [.call ⟨1,1⟩ (titledCall name)] := by
  have text : callText name .handlebars =
      String.ofList ('{' :: '{' :: (name.toList ++ " title key=alt\x7d\x7d".toList)) := by
    rw [← String.toList_inj]
    simp [callText]
  have given : ∀ fuel, 5 * " title key=alt\x7d\x7d".toList.length ≤ fuel →
      arguments fuel " title key=alt\x7d\x7d".toList =
        ([.placed (.path ⟨"title",.block 0,["title"]⟩),
          .named "key" (.path ⟨"alt",.block 0,["alt"]⟩)],'}' :: '}' :: []) := by
    intro fuel deep
    obtain ⟨more,rfl⟩ := Nat.exists_eq_add_of_le' (Nat.le_trans (show 5 ≤ _ by decide) deep)
    exact arguments_titled more
  have read := tag?_call identifier plain (by decide) given
  rw [String.ofList_toList] at read
  rw [text]
  exact compile?_call identifier read

/-- What a registered helper makes of its arguments is written, and what it refuses is blamed on the
place of the call. -/
theorem renderNode_registered {s : Settings} {scope : Scope} {place : Position} {c : Call}
    {call : Applied} {h : Helper} (finds : c.find s scope = .ok call)
    (registered : s.helpers.lookup call.name = some h) (others : Others) (page : Page) :
    renderNode s others scope page (.call place c) =
      match h ((call.placed.head?.map Found.get).getD .null) call.named with
      | .ok v => .ok (page.write (printed v))
      | .error m => .error (.failed ((Failure.of (.refused call.name m)).within (some place))) := by
  cases made : h ((call.placed.head?.map Found.get).getD .null) call.named with
  | ok v => exact prints_call finds registered made others page
  | error m =>
    have callee : s.callee substituteHelper call.name = .ok (.registered h) := by
      simp [Settings.callee,Settings.callee?,registered]
    simp [renderNode,finds,printHelper,callee,printCall,callValue,callRegistered,made,blamed,
      Bind.bind,Except.bind,Except.map]

theorem render_registered {s : Settings} {data : Json} {place : Position} {c : Call} {call : Applied}
    {h : Helper} (finds : c.find s (.ofData data) = .ok call)
    (registered : s.helpers.lookup call.name = some h) {templates : List (String × Template)}
    {id : String} (held : templates.lookup id = some [.call place c]) :
    render s templates id data =
      match h ((call.placed.head?.map Found.get).getD .null) call.named with
      | .ok v => .ok (printed v)
      | .error m => .error (.failed ⟨.refused call.name m,some place,some id⟩) := by
  rw [render_single held,renderNode_registered finds registered]
  cases h ((call.placed.head?.map Found.get).getD .null) call.named with
  | ok v => simp [Except.mapError,Except.map,Page.text_write,Page.blank]
  | error m => rfl

theorem find_titledCall (s : Settings) (name : String) {fields : List (String × Json)}
    {title alt : Json} (titled : fields.lookup "title" = some title)
    (found : fields.lookup "alt" = some alt) :
    (titledCall name).find s (.ofData (.obj fields)) =
      .ok ⟨name,[⟨some title,some "title"⟩],[("key",alt)]⟩ := by
  have first := find_field fields "title" "title"
  have second := find_field fields "alt" "alt"
  rw [titled] at first
  rw [found] at second
  simp [Call.find,titledCall,findTerms,findTerm,findNamed,first,second,Found.get,Bind.bind,
    Except.bind,Pure.pure,Except.pure,Except.map]

theorem render_titledCall {s : Settings} {name : String} {h : Helper}
    (registered : s.helpers.lookup name = some h) {templates : List (String × Template)} {id : String}
    (held : templates.lookup id = some [.call ⟨1,1⟩ (titledCall name)])
    {fields : List (String × Json)} {title alt : Json} (titled : fields.lookup "title" = some title)
    (found : fields.lookup "alt" = some alt) :
    render s templates id (.obj fields) =
      match h title [("key",alt)] with
      | .ok v => .ok (printed v)
      | .error m => .error (.failed ⟨.refused name m,some ⟨1,1⟩,some id⟩) := by
  exact render_registered (find_titledCall s name titled found) registered held

end Handlebars

namespace Liquid

def titledChain (name : String) : Chain :=
  ⟨.variable "title" [],[⟨name,[],[("key",.variable "alt" [])]⟩]⟩

theorem compile?_callText {x : Extensions} {name : String} {h : Helper}
    (identifier : Text.isIdentifier name.toList) (registered : x.filters.lookup name = some h) :
    compile? x (callText name .liquid) = some ⟨x,[.output (titledChain name)]⟩ := by
  have text : callText name .liquid = String.ofList ('{' :: '{' :: ' ' :: ("title".toList ++
      ' ' :: '|' :: ' ' :: (name.toList ++ ':' :: ' ' :: ("key".toList ++ ':' :: ' ' ::
        ("alt".toList ++ [' ','}','}']))))) := by
    rw [← String.toList_inj]
    simp [callText]
  have filter := filter?_named identifier (show Text.isIdentifier "key".toList by decide)
    (show Text.isIdentifier "alt".toList by decide) (by decide)
    (show endsSteps [' ','}','}'] by decide) (by decide)
  have read := output?_filtered (show Text.isIdentifier "title".toList by decide) (by decide)
    identifier filter
  have known : (titledChain name).known? x = some (titledChain name) := by
    simp [Chain.known?,titledChain,FilterCall.known,registered]
  simp only [String.ofList_toList,variableOf_single] at read
  rw [text]
  exact compile?_output read known

theorem apply_registered_named {scope : Scope} {store : Store} {name key : String} {h : Helper}
    {e : Expression} {input u : Value} (registered : scope.extensions.filters.lookup name = some h)
    (evaluates : e.eval scope store = .ok u) :
    FilterCall.apply scope store ⟨name,[],[(key,e)]⟩ input =
      ((h input.toJson [(key,u.toJson)]).mapError (.filterRefused name)).bind accepted := by
  have named : evalNamed scope store [(key,e)] = .ok [(key,u.toJson)] := by
    simp [evalNamed,evalAll,evaluates,Json.fieldsOf,Json.insertField,Bind.bind,Except.bind,
      Pure.pure,Except.pure]
  simp [FilterCall.apply,registered,named,Bind.bind,Except.bind]

theorem render_titledChain {x : Extensions} {name : String} {h : Helper}
    (registered : x.filters.lookup name = some h) {fields : List (String × Json)}
    (numbers : Json.Each Json.IsInt64 (.obj fields)) {title alt : Json}
    (titled : fields.lookup "title" = some title) (found : fields.lookup "alt" = some alt) :
    render ⟨x,[.output (titledChain name)]⟩ (.obj fields) =
      (((h title [("key",alt)]).mapError (.filterRefused name)).bind accepted).map Value.printed := by
  have taken (v : Json) (small : v.Each Json.IsInt64) :
      ∃ u, Value.ofJson? v = some u ∧ u.toJson = v := by
    obtain ⟨u,made⟩ := Option.isSome_iff_exists.mp
      ((Value.isSome_ofJson?_iff v).mpr (small.imp fun _ => fits_of_isInt64))
    exact ⟨u,made,Value.toJson_of_ofJson? (small.imp fun _ => isFinite_of_isInt64) made⟩
  obtain ⟨_,whole,-⟩ := taken _ numbers
  obtain ⟨data,fits,-⟩ := Option.map_eq_some_iff.mp whole
  obtain ⟨u,made,back⟩ := taken title (numbers.field titled)
  obtain ⟨w,made',back'⟩ := taken alt (numbers.field found)
  have entry : (Expression.variable "title" []).eval ⟨x,[],data⟩ .empty = .ok u :=
    find_field fits titled made
  have argument : (Expression.variable "alt" []).eval ⟨x,[],data⟩ .empty = .ok w :=
    find_field fits found made'
  rw [render_output fits,titledChain,eval_filtered entry,apply_registered_named registered argument,
    back,back']

end Liquid

namespace Engine

def callHelper (id name : String) (data : Json) (e : Engine) : Except TemplateError String :=
  e.renderText id (callText name e.language) data

def printAnswer (id name : String) : Language → Except String Json → Except TemplateError String
  | .handlebars,.ok v => .ok (Handlebars.printed v)
  | .handlebars,.error m =>
    .error (.renderFailed (.handlebars ⟨.refused name m,some ⟨1,1⟩,some id⟩))
  | .liquid,.ok v =>
    match Liquid.Value.ofJson? v with
    | some u => .ok u.printed
    | none => .error (.renderFailed (.liquid .numberTooLarge))
  | .liquid,.error m => .error (.renderFailed (.liquid (.filterRefused name m)))

theorem printAnswer_str (id name text : String) (l : Language) :
    printAnswer id name l (.ok (.str text)) = .ok text := by
  cases l <;> rfl

theorem refuses_printAnswer (id name m : String) (l : Language) :
    Refuses (printAnswer id name l (.error m)) := by
  cases l <;> exact ⟨_,rfl⟩

variable {fields : List (String × Json)} {title alt : Json}

theorem callHelper_handlebars (titled : fields.lookup "title" = some title)
    (found : fields.lookup "alt" = some alt) {e : HandlebarsEngine} {name : String} {h : Helper}
    (identifier : Text.isIdentifier name.toList) (plain : ¬ "else".toList <+: name.toList)
    (registered : (handlebars e).helper? name = some h) (id : String) :
    (handlebars e).callHelper id name (.obj fields) =
      printAnswer id name .handlebars (h title [("key",alt)]) := by
  have held : ((id,[.call ⟨1,1⟩ (Handlebars.titledCall name)]) :: e.templates).lookup id = some _ :=
    List.lookup_cons_self
  have rendered := Handlebars.render_titledCall registered held titled found
  rw [callHelper,language,renderText_handlebars e (Handlebars.compile?_callText identifier plain) rfl,
    rendered]
  cases h title [("key",alt)] <;> rfl

theorem callHelper_liquid (numbers : Json.Each Json.IsInt64 (.obj fields))
    (titled : fields.lookup "title" = some title) (found : fields.lookup "alt" = some alt)
    {e : LiquidEngine} {name : String} {h : Helper} (identifier : Text.isIdentifier name.toList)
    (registered : (liquid e).helper? name = some h) (id : String) :
    (liquid e).callHelper id name (.obj fields) =
      printAnswer id name .liquid (h title [("key",alt)]) := by
  rw [callHelper,language,renderText_liquid e (Liquid.compile?_callText identifier registered),
    Liquid.render_titledChain registered numbers titled found]
  cases h title [("key",alt)] with
  | error m => rfl
  | ok v =>
    cases taken : Liquid.Value.ofJson? v <;>
      simp [printAnswer,Liquid.accepted,taken,Except.bind,Except.map]

/-- Whatever the language, the helper is given the title and the alternative as they are. -/
theorem callHelper_eq (numbers : Json.Each Json.IsInt64 (.obj fields))
    (titled : fields.lookup "title" = some title) (found : fields.lookup "alt" = some alt) {e : Engine}
    {name : String} {h : Helper} (identifier : Text.isIdentifier name.toList)
    (plain : ¬ "else".toList <+: name.toList) (registered : e.helper? name = some h) (id : String) :
    e.callHelper id name (.obj fields) =
      printAnswer id name e.language (h title [("key",alt)]) := by
  cases e with
  | handlebars e => exact callHelper_handlebars titled found identifier plain registered id
  | liquid e => exact callHelper_liquid numbers titled found identifier registered id

theorem helper?_standard (strict : Bool) (l : Language) {helper : String × Helper}
    (builtin : helper ∈ Helper.builtin) : (standard strict l).helper? helper.1 = some helper.2 := by
  simp only [Helper.builtin,List.mem_cons,List.not_mem_nil,or_false] at builtin
  rcases builtin with rfl | rfl | rfl | rfl | rfl | rfl <;> cases l <;> rfl

theorem plain_builtin : ∀ helper ∈ Helper.builtin,
    Text.isIdentifier helper.1.toList ∧ ¬ "else".toList <+: helper.1.toList := by
  have names : ∀ name ∈ Helper.builtin.map (·.1),
      Text.isIdentifier name.toList ∧ ¬ "else".toList <+: name.toList := by
    decide
  exact fun helper builtin => names helper.1 (List.mem_map_of_mem builtin)

/-- A helper sees the same call in either language. Every engine that has it under a name gives it the
title and the alternative of the data and prints its answer; a refusal is refused, and a string is
printed as it stands. So each of the helpers that every engine starts with prints its strings alike. -/
theorem callHelper_alike (numbers : Json.Each Json.IsInt64 (.obj fields))
    (titled : fields.lookup "title" = some title) (found : fields.lookup "alt" = some alt)
    (id : String) :
    (∀ (e : Engine) (name : String) (h : Helper),
      Text.isIdentifier name.toList → ¬ "else".toList <+: name.toList → e.helper? name = some h →
      e.callHelper id name (.obj fields) =
          printAnswer id name e.language (h title [("key",alt)]) ∧
        (∀ m, h title [("key",alt)] = .error m → Refuses (e.callHelper id name (.obj fields))) ∧
        ∀ text, h title [("key",alt)] = .ok (.str text) →
          e.callHelper id name (.obj fields) = .ok text) ∧
    ∀ helper ∈ Helper.builtin, ∀ strict l text, helper.2 title [("key",alt)] = .ok (.str text) →
      (standard strict l).callHelper id helper.1 (.obj fields) = .ok text := by
  constructor
  · intro e name h identifier plain registered
    have answered := callHelper_eq numbers titled found identifier plain registered id
    refine ⟨answered,fun m refused => ?_,fun text made => ?_⟩
    · rw [answered,refused]
      exact refuses_printAnswer id name m _
    · rw [answered,made,printAnswer_str]
  · intro helper builtin strict l text made
    obtain ⟨identifier,plain⟩ := plain_builtin helper builtin
    rw [callHelper_eq numbers titled found identifier plain (helper?_standard strict l builtin),made,
      printAnswer_str]

def keyed : Helper := fun _ named => .ok ((named.lookup "key").getD .null)

def headline : List (String × Json) := [("alt",.str "<b>"),("title",.str "News")]

theorem callHelper_string_unescaped :
    (registerHelper "keyed" keyed (.handlebars (.empty true))).callHelper "a" "keyed" (.obj headline) =
      .ok "<b>" ∧
    (registerHelper "keyed" keyed (.liquid .empty)).callHelper "a" "keyed" (.obj headline) =
      .ok "<b>" ∧
    (standard true .liquid).callHelper "a" "uppercase" (.obj headline) = .ok "NEWS" := by
  have numbers : Json.Each Json.IsInt64 (.obj headline) := by
    refine Json.each_obj_iff.mpr ⟨trivial,?_⟩
    simp only [headline,List.forall_mem_cons]
    exact ⟨(Json.each_leaf_iff (by trivial)).mpr trivial,
      (Json.each_leaf_iff (by trivial)).mpr trivial,List.forall_mem_nil _⟩
  obtain ⟨registered,builtin⟩ := callHelper_alike numbers rfl rfl "a"
  refine ⟨?_,?_,?_⟩
  · exact (registered _ "keyed" keyed (by decide) (by decide) rfl).2.2 "<b>" rfl
  · exact (registered _ "keyed" keyed (by decide) (by decide) rfl).2.2 "<b>" rfl
  · have upper : Text.uppercased "News" = "NEWS" := by decide +kernel
    exact builtin ("uppercase",_) List.mem_cons_self true .liquid "NEWS" (upper ▸ rfl)

/-- Under a name that begins with the word of the other branch a helper can be called in the one
language only. -/
theorem callHelper_else_prefixed_apart :
    Text.isIdentifier "elsewhere".toList ∧
    (registerHelper "elsewhere" keyed (.handlebars (.empty true))).callHelper "a" "elsewhere"
      (.obj headline) = .error (.compileFailed "a") ∧
    (registerHelper "elsewhere" keyed (.liquid .empty)).callHelper "a" "elsewhere" (.obj headline) =
      .ok "<b>" := by
  refine ⟨by decide,?_,?_⟩ <;> cbv

end Engine

end Placard
