import Placard.Proofs.Registry.Tables

/-! Options for engines, item by item. Options are a row of items, each of which asks for an engine or
for an extension of one. They are applied up to the first that cannot be, and those before it lie over
what was there: under each name the last one counts. Nothing else of a registry changes. -/
namespace Placard

/-- What options ask for one after the other: that an engine is there, and that it is extended. -/
inductive Item where
  | engine (l : Language)
  | helper (l : Language) (name : String) (h : Helper)
  | tag (l : Language) (name : String) (f : TagFunction)

def EngineOptions.items (o : EngineOptions) : List Item :=
  .engine o.language :: (o.helpers.map (fun h => .helper o.language h.1 h.2) ++
    o.tags.map fun t => .tag o.language t.1 t.2)

namespace Item

def language : Item → Language
  | engine l | helper l _ _ | tag l _ _ => l

def helper? (l : Language) (name : String) : Item → Option Helper
  | helper k n h => if k = l ∧ n = name then some h else none
  | _ => none

def tag? (l : Language) (name : String) : Item → Option TagFunction
  | tag k n f => if k = l ∧ n = name then some f else none
  | _ => none

def fault? (r : Registry) (i : Item) : Option TemplateError :=
  if (r.engine? i.language).isNone then some (.engineNotFound i.language)
  else match i with
    | tag .handlebars _ _ => some (.unsupported .handlebars .tags)
    | _ => none

end Item

namespace Registry

variable {r r' r'' : Registry}

def helper? (r : Registry) (l : Language) (name : String) : Option Helper :=
  (r.engine? l).bind (Engine.helper? name)

def tag? (r : Registry) (l : Language) (name : String) : Option TagFunction :=
  (r.engine? l).bind (Engine.tag? name)

/-- The items lie over what was there before, the last of a name counting, and nothing else has
changed: not which engines there are and how they were made, no table and no key, and nothing is
counted. -/
structure Overlaid (r : Registry) (items : List Item) (r' : Registry) : Prop where
  helper : ∀ l name, r'.helper? l name =
    (items.findSomeRev? (Item.helper? l name)).or (r.helper? l name)
  tag : ∀ l name, r'.tag? l name = (items.findSomeRev? (Item.tag? l name)).or (r.tag? l name)
  origin : ∀ l, (r'.engine? l).map Engine.origin = (r.engine? l).map Engine.origin
  compiled : ∀ l id, r'.compiled? l id = r.compiled? l id
  ids : ∀ l, r'.templateIds l = r.templateIds l
  keys : r'.keys = r.keys
  tally : r'.tally = r.tally

theorem Overlaid.refl (r : Registry) : r.Overlaid [] r := by
  constructor <;> simp [List.findSomeRev?]

theorem findSomeRev?_append (f : α → Option β) (front back : List α) :
    (front ++ back).findSomeRev? f = (back.findSomeRev? f).or (front.findSomeRev? f) := by
  simp only [List.findSomeRev?_eq_findSome?_reverse,List.reverse_append,List.findSome?_append]

theorem Overlaid.trans {items more : List Item} (first : r.Overlaid items r')
    (later : r'.Overlaid more r'') : r.Overlaid (items ++ more) r'' where
  helper l name := by
    rw [later.helper,first.helper,findSomeRev?_append,Option.or_assoc]
  tag l name := by
    rw [later.tag,first.tag,findSomeRev?_append,Option.or_assoc]
  origin l := (later.origin l).trans (first.origin l)
  compiled l id := (later.compiled l id).trans (first.compiled l id)
  ids l := (later.ids l).trans (first.ids l)
  keys := later.keys.trans first.keys
  tally := later.tally.trans first.tally

theorem Overlaid.isNone {items : List Item} (laid : r.Overlaid items r') (l : Language) :
    (r'.engine? l).isNone = (r.engine? l).isNone := by
  have same := congrArg Option.isNone (laid.origin l)
  simpa using same

theorem Overlaid.fault? {items : List Item} (laid : r.Overlaid items r') (i : Item) :
    i.fault? r' = i.fault? r := by
  simp only [Item.fault?,laid.isNone]

/-- What Liquid has compiled renders as before, as it holds the extensions that it calls. -/
theorem Overlaid.apply_liquid {items : List Item} (laid : r.Overlaid items r') (id : String)
    (data : Json) : r'.apply .liquid id data = r.apply .liquid id data := by
  have isNone := laid.isNone .liquid
  have compiled := laid.compiled .liquid id
  cases before : r.engine? .liquid <;> cases after : r'.engine? .liquid <;>
    simp only [before,after,Option.isNone_none,Option.isNone_some,reduceCtorEq] at isNone
  · simp [apply,engine,before,after]
  next e e' =>
    simp only [compiled?,before,after,Option.bind_some] at compiled
    have rendered (c : Compiled) := Engine.renderCompiled_liquid (language_of_engine? after)
      (language_of_engine? before) id data c
    simp [apply,engine,before,after,Bind.bind,Except.bind,Engine.apply_eq,compiled,rendered]

/-- An extension of one engine lies over what that engine had. -/
theorem overlaid_withEngine {l : Language} {e e' : Engine} {i : Item} (found : r.engine? l = some e)
    (here : i.language = l) (extended : e.Extended e')
    (helper : ∀ name, e'.helper? name = (i.helper? l name).or (e.helper? name))
    (tag : ∀ name, e'.tag? name = (i.tag? l name).or (e.tag? name))
    (origin : e'.origin = e.origin) (compiled : ∀ id, e'.compiled? id = e.compiled? id) :
    r.Overlaid [i] (r.withEngine e') := by
  have language : e'.language = l := extended.language.trans (language_of_engine? found)
  have elsewhere {k : Language} (other : k ≠ l) (name : String) :
      i.helper? k name = none ∧ i.tag? k name = none := by
    subst here
    cases i <;> simp [Item.helper?,Item.tag?] <;> exact fun same => absurd same.symm other
  constructor
  case helper =>
    intro k name
    by_cases same : k = l
    · subst same
      simp [Registry.helper?,engine?_withEngine,language,found,helper,List.findSomeRev?]
    · simp [Registry.helper?,engine?_withEngine,language,same,elsewhere same,List.findSomeRev?]
  case tag =>
    intro k name
    by_cases same : k = l
    · subst same
      simp [Registry.tag?,engine?_withEngine,language,found,tag,List.findSomeRev?]
    · simp [Registry.tag?,engine?_withEngine,language,same,elsewhere same,List.findSomeRev?]
  case origin =>
    intro k
    by_cases same : k = l
    · subst same
      simp [engine?_withEngine,language,found,origin]
    · simp [engine?_withEngine,language,same]
  case compiled =>
    intro k id
    by_cases same : k = l
    · subst same
      simp [compiled?,engine?_withEngine,language,found,compiled]
    · simp [compiled?,engine?_withEngine,language,same]
  case ids => exact templateIds_extended found extended
  case keys => exact keys_withEngine r e'
  case tally => cases e' <;> rfl

/-- Applies one item. -/
def take (r : Registry) : Item → Except TemplateError Registry
  | .engine l => (r.engine l).map fun _ => r
  | .helper l name h => r.registerHelper l name h
  | .tag l name f => r.registerTag l name f

theorem take_eq_error_iff {i : Item} {err : TemplateError} :
    r.take i = .error err ↔ i.fault? r = some err := by
  cases i with
  | engine l =>
    cases found : r.engine? l <;>
      simp [take,engine,Item.fault?,Item.language,found,Except.map]
  | helper l name h =>
    rw [take,registerHelper,change_eq_error_iff]
    cases found : r.engine? l <;> simp [Item.fault?,Item.language,found,eq_comm]
  | tag l name f =>
    rw [take,registerTag,change_eq_error_iff]
    cases found : r.engine? l with
    | none => simp [Item.fault?,Item.language,found,eq_comm]
    | some e =>
      have language := language_of_engine? found
      cases e with
      | handlebars e =>
        obtain rfl : Language.handlebars = l := language
        simp [Item.fault?,Item.language,found,Engine.registerTag]
      | liquid e =>
        obtain rfl : Language.liquid = l := language
        simp [Item.fault?,Item.language,found,Engine.registerTag]

theorem take_overlaid {i : Item} (done : r.take i = .ok r') : r.Overlaid [i] r' := by
  cases i with
  | engine l =>
    obtain ⟨e,-,rfl⟩ := map_eq_ok_iff.mp done
    constructor <;> simp [List.findSomeRev?,Item.helper?,Item.tag?]
  | helper l name h =>
    obtain ⟨e,e',found,⟨⟩,rfl⟩ := change_eq_ok_iff.mp done
    refine overlaid_withEngine found rfl (Engine.extended_registerHelper e name h) (fun n => ?_)
      (fun n => ?_) (Engine.origin_after e (.registerHelper name h)) fun id => ?_
    · have after := Engine.helper?_after e (.registerHelper name h) n
      rw [Engine.after_registerHelper] at after
      simpa [Item.helper?,Engine.Call.helper?] using after
    · cases e <;> rfl
    · cases e <;> rfl
  | tag l name f =>
    obtain ⟨e,e',found,extended,rfl⟩ := change_eq_ok_iff.mp done
    cases e with
    | handlebars e => cases extended
    | liquid e =>
      cases extended
      refine overlaid_withEngine found rfl (Engine.extended_registerTag rfl) (fun n => rfl)
        (fun n => ?_) (Engine.origin_after (.liquid e) (.registerTag name f)) fun id => rfl
      have after := Engine.tag?_after (e := .liquid e) rfl (.registerTag name f) n
      rw [Engine.after_registerTag] at after
      simpa [Item.tag?,Engine.Call.tag?] using after

def takeAll (r : Registry) : List Item → Except TemplateError Unit × Registry
  | [] => (.ok (),r)
  | i :: rest =>
    match r.take i with
    | .error err => (.error err,r)
    | .ok r => r.takeAll rest

theorem takeAll_append (r : Registry) (items more : List Item) :
    r.takeAll (items ++ more) =
      match r.takeAll items with
      | (.error err,r) => (.error err,r)
      | (.ok (),r) => r.takeAll more := by
  induction items generalizing r with
  | nil => rfl
  | cons i rest ih =>
    cases step : r.take i with
    | error err => simp [takeAll,step]
    | ok r₁ => simpa [takeAll,step] using ih r₁

theorem registerHelpers_eq (r : Registry) (l : Language) (helpers : List (String × Helper)) :
    r.registerHelpers l helpers = r.takeAll (helpers.map fun h => .helper l h.1 h.2) := by
  induction helpers generalizing r with
  | nil => rfl
  | cons h rest ih =>
    rw [registerHelpers,List.map_cons,takeAll,take]
    cases r.registerHelper l h.1 h.2 with
    | error err => rfl
    | ok r₁ => exact ih r₁

theorem registerTags_eq (r : Registry) (l : Language) (tags : List (String × TagFunction)) :
    r.registerTags l tags = r.takeAll (tags.map fun t => .tag l t.1 t.2) := by
  induction tags generalizing r with
  | nil => rfl
  | cons t rest ih =>
    rw [registerTags,List.map_cons,takeAll,take]
    cases r.registerTag l t.1 t.2 with
    | error err => rfl
    | ok r₁ => exact ih r₁

theorem applyOptions_eq (r : Registry) (options : List EngineOptions) :
    r.applyOptions options = r.takeAll (options.flatMap EngineOptions.items) := by
  induction options generalizing r with
  | nil => rfl
  | cons o rest ih =>
    rw [List.flatMap_cons,EngineOptions.items,List.cons_append,List.append_assoc,takeAll,take]
    cases found : r.engine o.language with
    | error err => simp [applyOptions,found,Except.map]
    | ok e =>
      simp only [applyOptions,found,Except.map,takeAll_append,← registerHelpers_eq]
      rcases r.registerHelpers o.language o.helpers with ⟨_ | _,r₁⟩
      · rfl
      · simp only [← registerTags_eq]
        rcases r₁.registerTags o.language o.tags with ⟨_ | _,r₂⟩
        · rfl
        · exact ih r₂

/-- The items before the first that cannot be applied are applied, and no other one. -/
theorem takeAll_overlaid (r : Registry) (items : List Item) :
    ∃ taken rest, items = taken ++ rest ∧ (∀ i ∈ taken, i.fault? r = none) ∧
      r.Overlaid taken (r.takeAll items).2 ∧
      (rest = [] ∧ (r.takeAll items).1 = .ok () ∨
        ∃ i more err, rest = i :: more ∧ i.fault? r = some err ∧
          (r.takeAll items).1 = .error err) := by
  induction items generalizing r with
  | nil => exact ⟨[],[],rfl,List.forall_mem_nil _,.refl r,.inl ⟨rfl,rfl⟩⟩
  | cons i items ih =>
    cases step : r.take i with
    | error err =>
      have fault := take_eq_error_iff.mp step
      simp only [takeAll,step]
      exact ⟨[],i :: items,rfl,List.forall_mem_nil _,.refl r,
        .inr ⟨i,items,err,rfl,fault,rfl⟩⟩
    | ok r₁ =>
      have first := take_overlaid step
      have sound : i.fault? r = none := by
        refine Option.eq_none_iff_forall_ne_some.mpr fun err fault => ?_
        rw [take_eq_error_iff.mpr fault] at step
        cases step
      obtain ⟨taken,rest,rfl,all,later,ended⟩ := ih r₁
      simp only [first.fault?] at all ended
      simp only [takeAll,step]
      exact ⟨i :: taken,rest,rfl,List.forall_mem_cons.mpr ⟨sound,all⟩,first.trans later,ended⟩

theorem fault?_of_none {i : Item} (missing : r.engine? i.language = none) :
    i.fault? r = some (.engineNotFound i.language) := by
  simp [Item.fault?,missing]

theorem fault?_of_some {i : Item} {e : Engine} (found : r.engine? i.language = some e) :
    i.fault? r = none ↔ ∀ name f, i ≠ .tag .handlebars name f := by
  simp only [Item.fault?,found,Option.isNone_some,Bool.false_eq_true,if_false]
  split <;> simp_all

/-- All items of options can be applied just if their engine is there, and is not Handlebars if there
are tags. -/
theorem faultless_items_iff {o : EngineOptions} :
    (∀ i ∈ o.items, i.fault? r = none) ↔
      (r.engine? o.language).isSome ∧ (o.language = .handlebars → o.tags = []) := by
  rw [EngineOptions.items,List.forall_mem_cons,List.forall_mem_append,List.forall_mem_map,
    List.forall_mem_map]
  cases found : r.engine? o.language with
  | none => simp [fault?_of_none (i := .engine o.language) found]
  | some e =>
    have engine := fault?_of_some (i := .engine o.language) found
    have helper (h : String × Helper) := fault?_of_some (i := .helper o.language h.1 h.2) found
    have tag (t : String × TagFunction) := fault?_of_some (i := .tag o.language t.1 t.2) found
    simp only [engine,helper,tag]
    cases o.language <;> simp [List.eq_nil_iff_forall_not_mem]

/-- Options are applied up to the first item that cannot be, be it for want of an engine or because
Handlebars takes no tags; what comes of it is the fault of that item, or success if there is none, that
is if all engines are there and none of the options for Handlebars has a tag. Either way the items
before it, and no other ones, lie over the helpers and tags that were in force, the last one of a name
counting. No table, no key and no count changes, and what Liquid has compiled renders as before. -/
theorem applyOptions_overlays (r : Registry) (options : List EngineOptions) :
    let done := r.applyOptions options
    (done.1 = .ok () ↔ ∀ o ∈ options,
      (r.engine? o.language).isSome ∧ (o.language = .handlebars → o.tags = [])) ∧
    (∃ taken rest, options.flatMap EngineOptions.items = taken ++ rest ∧
      (∀ i ∈ taken, i.fault? r = none) ∧ r.Overlaid taken done.2 ∧
      (rest = [] ∧ done.1 = .ok () ∨
        ∃ i more err, rest = i :: more ∧ i.fault? r = some err ∧ done.1 = .error err)) ∧
    ∀ id data, done.2.apply .liquid id data = r.apply .liquid id data := by
  intro done
  obtain ⟨taken,rest,all,sound,laid,ended⟩ :=
    r.takeAll_overlaid (options.flatMap EngineOptions.items)
  rw [← applyOptions_eq] at laid ended
  refine ⟨?_,⟨taken,rest,all,sound,laid,ended⟩,laid.apply_liquid⟩
  have each : (∀ o ∈ options, (r.engine? o.language).isSome ∧
      (o.language = .handlebars → o.tags = [])) ↔
      ∀ i ∈ options.flatMap EngineOptions.items, i.fault? r = none := by
    simp only [← faultless_items_iff,List.forall_mem_flatMap]
  rw [each,all]
  rcases ended with ⟨rfl,succeeds⟩ | ⟨i,more,err,rfl,fault,fails⟩
  · simpa [done,succeeds] using sound
  · have stuck : ¬ ∀ j ∈ taken ++ i :: more, j.fault? r = none := by
      intro none
      rw [none i (by simp)] at fault
      cases fault
    simpa [done,fails] using stuck

/-- The options for Liquid that stand after those for an engine that is missing are not applied. -/
example :
    let done := (standard true [.liquid]).applyOptions
      [⟨.liquid,[("loud",.json),("loud",.orDefault)],[("set",.ok)]⟩,⟨.handlebars,[],[]⟩,
        ⟨.liquid,[("late",.json)],[]⟩]
    failure? done.1 = some .engineNotFound ∧ (done.2.tag? .liquid "set").isSome ∧
      ((done.2.helper? .liquid "loud").map fun h => (h .null []).toOption.map Json.compact) =
        some (some "\"\"") ∧
      (done.2.helper? .liquid "late").isNone := by
  decide +kernel

end Registry
end Placard
