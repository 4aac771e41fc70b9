import Mathlib.Data.List.Nodup
import Placard.Proofs.Registry.Operation
import Placard.Proofs.Target

/-! The noted keys and the engines' tables are written one after the other, and no operation leaves
them apart: a noted key has its template. If every key is one that a target of its language has, the
converse holds too, as no two languages share such a key, and there are as many noted keys as
templates. -/
namespace Placard

def Keyed (l : Language) (key : String) : Prop := ∃ t : Target, t.language = l ∧ t.key = key

theorem keyed_target (t : Target) : Keyed t.language t.key := ⟨t,rfl,rfl⟩

/-- The key of a target tells its language. -/
theorem Keyed.language_eq {l l' : Language} {key : String} (here : Keyed l key)
    (there : Keyed l' key) : l = l' := by
  obtain ⟨t,rfl,named⟩ := here
  obtain ⟨t',rfl,named'⟩ := there
  rw [Target.key_injective (named.trans named'.symm)]

namespace Engine

theorem mem_templateIds {e : Engine} {id : String} : id ∈ e.templateIds ↔ e.hasTemplate id := by
  cases e <;> simp only [templateIds,hasTemplate,lookup_isSome_iff_mem]

theorem templateIds_registerTemplate {e e' : Engine} {id text : String}
    (sorted : e.templateIds.Pairwise (· < ·)) (done : e.registerTemplate id text = .ok e') :
    e'.templateIds.Pairwise (· < ·) := by
  cases e with
  | handlebars e =>
    cases compiles : Handlebars.compile? text with
    | none => simp [registerTemplate,HandlebarsEngine.registerTemplate,compiles,Except.map] at done
    | some t =>
      simp only [registerTemplate,HandlebarsEngine.registerTemplate,compiles,Except.map] at done
      cases done
      exact ascending_insertField sorted id t
  | liquid e =>
    cases compiles : Liquid.compile? e.extensions text with
    | none => simp [registerTemplate,LiquidEngine.registerTemplate,compiles,Except.map] at done
    | some t =>
      simp only [registerTemplate,LiquidEngine.registerTemplate,compiles,Except.map] at done
      cases done
      exact ascending_insertField sorted id t

end Engine

namespace Registry

variable {r r' : Registry}

def templateIds (r : Registry) (l : Language) : List String :=
  ((r.engine? l).map Engine.templateIds).getD []

theorem mem_templateIds {l : Language} {key : String} :
    key ∈ r.templateIds l ↔ ∃ e, r.engine? l = some e ∧ e.hasTemplate key := by
  cases found : r.engine? l <;> simp [templateIds,found,Engine.mem_templateIds]

theorem mem_templateIds_iff_compiled {l : Language} {key : String} :
    key ∈ r.templateIds l ↔ (r.compiled? l key).isSome := by
  cases found : r.engine? l <;>
    simp [templateIds,compiled?,found,Engine.mem_templateIds,Engine.hasTemplate_eq]

theorem mem_languages {l : Language} : l ∈ r.languages ↔ (r.engine? l).isSome := by
  cases l <;> simp [languages,Language.all]

/-- Nothing is noted, and no engine holds a template. Engines may have extensions. -/
structure Fresh (r : Registry) : Prop where
  keys : r.keys = []
  templates : ∀ l, r.templateIds l = []

theorem keys_withEngine (r : Registry) (e : Engine) : (r.withEngine e).keys = r.keys := by
  cases e <;> rfl

theorem fresh_standard (strict : Bool) (languages : List Language) :
    (standard strict languages).Fresh := by
  constructor
  case keys =>
    have all (languages : List Language) (r : Registry) :
        (languages.foldl (fun r l => r.withEngine (Engine.standard strict l)) r).keys = r.keys := by
      induction languages generalizing r with
      | nil => rfl
      | cons l rest ih => rw [List.foldl_cons,ih,keys_withEngine]
    exact all languages .empty
  case templates =>
    intro l
    refine List.eq_nil_iff_forall_not_mem.mpr fun key => ?_
    simp [mem_templateIds_iff_compiled,compiled?_standard]

theorem templateIds_extended {l : Language} {e e' : Engine} (found : r.engine? l = some e)
    (extended : e.Extended e') (k : Language) :
    (r.withEngine e').templateIds k = r.templateIds k := by
  have language : e'.language = l := extended.language.trans (language_of_engine? found)
  by_cases h : k = l
  · subst h
    simp [templateIds,engine?_withEngine,language,found,extended.ids]
  · simp [templateIds,engine?_withEngine,language,h]

theorem keys_count (r : Registry) (c : Counter) : (r.count c).keys = r.keys := rfl

theorem templateIds_count (r : Registry) (c : Counter) (l : Language) :
    (r.count c).templateIds l = r.templateIds l := by
  cases l <;> rfl

/-- A key is noted for a language only if its engine holds a template under it. -/
def NotedHeld (r : Registry) : Prop :=
  ∀ key l, r.keys.lookup key = some l → key ∈ r.templateIds l

theorem NotedHeld.of_fresh (fresh : r.Fresh) : r.NotedHeld := by
  intro key l noted
  simp [fresh.keys] at noted

theorem NotedHeld.change {allowed : Language → String → Prop} (held : r.NotedHeld)
    (change : Change allowed r r') : r'.NotedHeld := by
  cases change with
  | counted c =>
    intro key l noted
    exact templateIds_count r c l ▸ held key l noted
  | extended found grown =>
    intro key l noted
    rw [keys_withEngine] at noted
    exact templateIds_extended found grown l ▸ held key l noted
  | @stored l key _ _ _ _ done =>
    obtain ⟨c,_,stored⟩ := registerText_ok done
    intro id k noted
    rw [stored.keys,lookup_bind] at noted
    rw [mem_templateIds_iff_compiled,stored.compiled]
    by_cases here : k = l ∧ id = key
    · simp [here]
    · have earlier : r.keys.lookup id = some k := by
        split at noted
        next named => exact absurd ⟨(Option.some.inj noted).symm,named⟩ here
        next => exact noted
      rw [if_neg here,← mem_templateIds_iff_compiled]
      exact held id k earlier

theorem NotedHeld.changes {allowed : Language → String → Prop} (held : r.NotedHeld)
    (changes : Changes allowed r r') : r'.NotedHeld := by
  induction changes with
  | refl => exact held
  | tail _ last ih => exact ih.change last

/-- The noted keys are the ids of the templates, with their languages, and both stand in order. -/
structure Matched (r : Registry) : Prop where
  held : ∀ l key, r.keys.lookup key = some l ↔ key ∈ r.templateIds l
  keyed : ∀ l key, r.keys.lookup key = some l → Keyed l key
  keys : Ascending r.keys
  ids : ∀ l, (r.templateIds l).Pairwise (· < ·)

theorem Matched.of_fresh (fresh : r.Fresh) : r.Matched := by
  constructor <;> simp [fresh.keys,fresh.templates]

theorem templateIds_registerText {l : Language} {key text : String} {again : Bool}
    (sorted : ∀ k, (r.templateIds k).Pairwise (· < ·))
    (done : r.registerText l key text = .ok (again,r')) (k : Language) :
    (r'.templateIds k).Pairwise (· < ·) := by
  rw [registerText_eq] at done
  cases changed : r.change l (Engine.registerTemplate key (withoutFinalNewline text)) with
  | error err => simp [changed,Except.map] at done
  | ok r₁ =>
    obtain ⟨e,e',found,registered,rfl⟩ := change_eq_ok_iff.mp changed
    simp only [changed,Except.map,Except.ok.injEq,Prod.mk.injEq] at done
    obtain ⟨_,rfl⟩ := done
    simp only [templateIds,engine?_note,engine?_withEngine]
    split
    · have before := sorted l
      simp only [templateIds,found,Option.map_some,Option.getD_some] at before
      exact Engine.templateIds_registerTemplate before registered
    · exact sorted k

theorem Matched.change (matched : r.Matched) (change : Change Keyed r r') : r'.Matched := by
  cases change with
  | counted c =>
    constructor <;> simp only [keys_count,templateIds_count]
    exacts [matched.held,matched.keyed,matched.keys,matched.ids]
  | extended found grown =>
    constructor <;> simp only [keys_withEngine,templateIds_extended found grown]
    exacts [matched.held,matched.keyed,matched.keys,matched.ids]
  | @stored l key _ _ _ is done =>
    obtain ⟨c,_,stored⟩ := registerText_ok done
    have keyed (k : Language) (id : String) (noted : r'.keys.lookup id = some k) : Keyed k id := by
      simp only [stored.keys,lookup_bind] at noted
      split at noted
      next named =>
        obtain rfl := Option.some.inj noted
        exact named ▸ is
      next => exact matched.keyed k id noted
    refine ⟨fun k id => ?_,keyed,?_,templateIds_registerText matched.ids done⟩
    · rw [mem_templateIds_iff_compiled,stored.compiled,stored.keys,lookup_bind]
      by_cases named : id = key
      · subst named
        by_cases language : k = l
        · simp [language]
        · -- A template of another language under the key would make it the key of both.
          have apart : id ∉ r.templateIds k := fun member =>
            language ((matched.keyed k id ((matched.held k id).mpr member)).language_eq is)
          rw [mem_templateIds_iff_compiled] at apart
          simp [language,Ne.symm language,apart]
      · simp only [named,and_false,if_false,← mem_templateIds_iff_compiled]
        exact matched.held k id
    · rw [stored.keys]
      exact ascending_insertField matched.keys key l

theorem Matched.changes (matched : r.Matched) (changes : Changes Keyed r r') : r'.Matched := by
  induction changes with
  | refl => exact matched
  | tail _ last ih => exact ih.change last

/-- There are as many noted keys as templates, over all engines. -/
theorem Matched.length_keys (matched : r.Matched) :
    r.keys.length = (r.languages.flatMap r.templateIds).length := by
  have languages : r.languages.Nodup := List.Nodup.filter _ (by decide)
  have apart : r.languages.Pairwise fun l l' => (r.templateIds l).Disjoint (r.templateIds l') := by
    refine languages.imp fun {l l'} different key here there => different ?_
    exact Option.some.inj (((matched.held l key).mpr here).symm.trans ((matched.held l' key).mpr there))
  have ids : (r.languages.flatMap r.templateIds).Nodup :=
    List.nodup_flatMap.mpr ⟨fun l _ => (matched.ids l).imp fun below => String.ne_of_lt below,apart⟩
  have same : (r.keys.map (·.1)).Perm (r.languages.flatMap r.templateIds) := by
    refine (List.perm_ext_iff_of_nodup (ascending_nodup matched.keys) ids).mpr fun key => ?_
    rw [← lookup_isSome_iff_mem,Option.isSome_iff_exists,List.mem_flatMap]
    constructor
    · rintro ⟨l,noted⟩
      have member := (matched.held l key).mp noted
      obtain ⟨e,found,_⟩ := mem_templateIds.mp member
      exact ⟨l,mem_languages.mpr (by simp [found]),member⟩
    · rintro ⟨l,_,member⟩
      exact ⟨l,(matched.held l key).mpr member⟩
  simpa using same.length_eq

variable {σ : Type}

theorem isRegistered_iff {l : Language} {key : String} :
    r.isRegistered l key ↔ r.keys.lookup key = some l := by
  simp [isRegistered]

/-- After any operations on a fresh registry, whatever they came to, a registered key has its
template. If freely chosen keys are keys of targets of the language too, then what is registered is
what has a template, and there are as many registered keys as templates in all engines. -/
theorem registered_iff_hasTemplate (fresh : r.Fresh) (ops : List (Operation σ)) (w : σ) :
    let after := ((r.runAll ops).run w).1
    (∀ l key, after.isRegistered l key → ∃ e, after.engine? l = some e ∧ e.hasTemplate key) ∧
      ((∀ op ∈ ops, op.Within Keyed) →
        (∀ l key, after.isRegistered l key ↔
          ∃ e, after.engine? l = some e ∧ e.hasTemplate key) ∧
        after.keys.length = (after.languages.flatMap after.templateIds).length) := by
  constructor
  · intro l key registered
    have anyKey : ∀ op ∈ ops, op.Within fun _ _ => True := by
      intro op _
      cases op <;> trivial
    have held := (NotedHeld.of_fresh fresh).changes (changes_runAll (fun _ => trivial) r anyKey w)
    exact mem_templateIds.mp (held key l (isRegistered_iff.mp registered))
  · intro within
    have matched := (Matched.of_fresh fresh).changes (changes_runAll keyed_target r within w)
    refine ⟨fun l key => ?_,matched.length_keys⟩
    rw [isRegistered_iff,matched.held,mem_templateIds]

/-- Liquid alone is configured. Options for the other engine, a template that is missing and a text
that does not compile fail on the way, and one key is taken twice. -/
def session : List (Operation (List String)) :=
  let push : Target := ⟨.liquid,"push",none⟩
  let card : Target := ⟨.liquid,"push",some .slack⟩
  let source := Source.recording fun path =>
    if path = "listing.json" then .ok (Manifest.print [⟨push,"push.liquid"⟩,⟨card,"lost.liquid"⟩])
    else if path = "EventTemplate/liquid/push.liquid" then .ok "[]\n"
    else .error (.notFound path)
  [.applyOptions [⟨.handlebars,[],[]⟩],
    .registerText .liquid card.key "[]",
    .setup source (.folder "templates") "listing.json" ⟨.overwrite,none⟩,
    .registerText .liquid card.key "\x7b% if %\x7d",
    .setup source (.folder "templates") "listing.json" ⟨.overwrite,some push⟩,
    .render push .null,
    .readAndRegister source .liquid "EventTemplate/liquid/push.liquid" push.key]

theorem registered_after_failures :
    let r := standard true [.liquid]
    let after := ((r.runAll session).run []).1
    r.Fresh ∧ (∀ op ∈ session, op.Within Keyed) ∧
      (∀ l key, after.isRegistered l key ↔ ∃ e, after.engine? l = some e ∧ e.hasTemplate key) ∧
      after.keys.length = (after.languages.flatMap after.templateIds).length ∧
      after.keys.length = 2 := by
  have fresh := fresh_standard true [.liquid]
  have within : ∀ op ∈ session, op.Within Keyed := by
    simp only [session,List.forall_mem_cons,Operation.Within,true_and]
    exact ⟨keyed_target ⟨_,_,_⟩,keyed_target ⟨_,_,_⟩,keyed_target ⟨_,_,_⟩,
      List.forall_mem_nil _⟩
  have ⟨same,count⟩ := (registered_iff_hasTemplate fresh session []).2 within
  exact ⟨fresh,within,same,count,by decide +kernel⟩

end Registry
end Placard
