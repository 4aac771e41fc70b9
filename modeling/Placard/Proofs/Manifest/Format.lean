import Placard.Manifest
import Placard.Proofs.Json.Accepting
import Placard.Proofs.Table

/-! The format of manifests. A list of maps is a manifest if each map tells an entry by four of its
members, in whatever order they stand, however they are spelled and whatever stands among them. -/
namespace Placard
open Json (Accepts Chooses Document Drafts Puts Shows Spells)

namespace Language

def spellings : Language → List String
  | .handlebars => ["handlebars","HandleBars","Handlebars"]
  | .liquid => ["liquid","Liquid"]

theorem lookup_choice_iff {l : Language} {name : String} :
    choice.cases.lookup name = some l ↔ name ∈ l.spellings := by
  simp only [choice,cases,lookup_cons_if]
  split_ifs with h h h h h <;> cases l <;> simp_all [spellings]

end Language

namespace Client

def spellings : Client → List String
  | .slack => ["slack"]
  | .teams => ["teams"]

theorem lookup_choice_iff {c : Client} {name : String} :
    choice.cases.lookup name = some c ↔ name ∈ c.spellings := by
  simp only [choice,lookup_cons_if]
  split_ifs with h h <;> cases c <;> simp_all [spellings]

end Client

namespace Entry

structure Tells (row : List (Option String × Document)) (e : Entry) : Prop where
  language : ∃ name ∈ e.target.language.spellings, ∃ v, (some "TemplateType",v) ∈ row ∧ Chooses name v
  source : (some "SourceType",.string (some e.target.source)) ∈ row
  template : (some "TemplateName",.string (some e.template)) ∈ row
  client : match e.target.client with
    | none => ∀ v, (some "ClientType",v) ∈ row → v = .null
    | some c => ∃ name ∈ c.spellings, ∃ v, (some "ClientType",v) ∈ row ∧ Chooses name v

/-- The map tells the entry, and all names in it are texts. Of the members with other names nothing
else is asked. -/
structure SpelledBy (row : List (Option String × Document)) (e : Entry) : Prop extends Tells row e where
  texts : ∀ f ∈ row, f.1.isSome

def fill (e : Entry) (name : String) (r : Entry) : Entry :=
  if name = "TemplateType" then { r with target := { r.target with language := e.target.language } }
  else if name = "SourceType" then { r with target := { r.target with source := e.target.source } }
  else if name = "TemplateName" then { r with template := e.template }
  else if name = "ClientType" then { r with target := { r.target with client := e.target.client } }
  else r

theorem puts_fill {e : Entry} {depth : Nat} {n : String} {d : Json.Draft}
    (language : n = "TemplateType" →
      Json.readChoice Language.choice ⟨depth,d⟩ = .ok e.target.language)
    (source : n = "SourceType" → Json.readText ⟨depth,d⟩ = .ok e.target.source)
    (template : n = "TemplateName" → Json.readText ⟨depth,d⟩ = .ok e.template)
    (client : n = "ClientType" →
      Medium.ifPresent (Json.readChoice Client.choice) ⟨depth,d⟩ = .ok e.target.client)
    (skips : Json.skip d = .ok ()) : Puts shape.fields depth (fill e) n d := by
  by_cases isLanguage : n = "TemplateType"
  · subst isLanguage
    exact map_eq_ok_iff.mpr ⟨_,language rfl,rfl⟩
  by_cases isSource : n = "SourceType"
  · subst isSource
    exact map_eq_ok_iff.mpr ⟨_,source rfl,rfl⟩
  by_cases isTemplate : n = "TemplateName"
  · subst isTemplate
    exact map_eq_ok_iff.mpr ⟨_,template rfl,rfl⟩
  by_cases isClient : n = "ClientType"
  · subst isClient
    exact map_eq_ok_iff.mpr ⟨_,client rfl,rfl⟩
  · have none : (Entry.shape (V := Json.Part)).fields.find? (·.name == n) = none := by
      simp [shape,Field.needed,Field.optional,Ne.symm isLanguage,Ne.symm isSource,
        Ne.symm isTemplate,Ne.symm isClient]
    rw [Puts,none]
    refine ⟨skips,?_⟩
    funext r
    simp [fill,isLanguage,isSource,isTemplate,isClient]

theorem foldl_fill {e : Entry} {names : List String} (language : "TemplateType" ∈ names)
    (source : "SourceType" ∈ names) (template : "TemplateName" ∈ names)
    (client : "ClientType" ∈ names ∨ e.target.client = none) :
    names.foldl (fun r n => fill e n r) blank = e := by
  have part {α : Type} (part : Entry → α) {name : String} (sets : ∀ r, part (fill e name r) = part e)
      (keeps : ∀ n ≠ name, ∀ r, part (fill e n r) = part r)
      (there : name ∈ names ∨ part e = part blank) :
      part (names.foldl (fun r n => fill e n r) blank) = part e := by
    rw [Json.foldl_put sets keeps]
    split
    · rfl
    next missing => exact (there.resolve_left missing).symm
  have language := part (·.target.language) (fun r => by simp [fill])
    (fun n other r => by simp only [fill,if_neg other]; split_ifs <;> rfl) (.inl language)
  have source := part (·.target.source) (fun r => by simp [fill])
    (fun n other r => by simp only [fill,if_neg other]; split_ifs <;> rfl) (.inl source)
  have template := part (·.template) (fun r => by simp [fill])
    (fun n other r => by simp only [fill,if_neg other]; split_ifs <;> rfl) (.inl template)
  have client := part (·.target.client) (fun r => by simp [fill])
    (fun n other r => by simp only [fill,if_neg other]; split_ifs <;> rfl) client
  generalize names.foldl (fun r n => fill e n r) blank = made at *
  obtain ⟨⟨l,s,c⟩,t⟩ := made
  obtain ⟨⟨l',s',c'⟩,t'⟩ := e
  simp_all

/-- All fields of an entry but the client have to be there. -/
theorem forall_required_iff {P : String → Prop} :
    (∀ field ∈ (Entry.shape (V := Json.Part)).fields, field.required → P field.name) ↔
      P "TemplateType" ∧ P "SourceType" ∧ P "TemplateName" := by
  simp [shape,Field.needed,Field.optional]

section fields

variable {depth : Nat} (v : Document)

theorem accepts_language : Accepts (Json.readChoice Language.choice) (depth + 1) v
    (fun l => ∃ name ∈ l.spellings, Chooses name v) := by
  intro d shows l
  simp only [Json.accepts_choice _ v shows,Language.lookup_choice_iff]

theorem accepts_client : Accepts (Medium.ifPresent (Json.readChoice Client.choice)) (depth + 1) v
    (fun c => c.elim (v = .null) fun c => ∃ name ∈ c.spellings, Chooses name v) := by
  have chosen : Accepts (Json.readChoice Client.choice) (depth + 1) v
      (fun c => ∃ name ∈ c.spellings, Chooses name v) := by
    intro d shows c
    simp only [Json.accepts_choice _ v shows,Client.lookup_choice_iff]
  refine chosen.ifPresent ?_
  rintro rfl c ⟨name,-,chooses⟩
  simp [Chooses] at chooses

end fields

variable {row : List (Option String × Document)} {e : Entry} {depth : Nat} {d : Json.Draft}

/-- Each member is taken for the field of its name. -/
theorem SpelledBy.puts (spelled : SpelledBy row e) (distinct : (row.filterMap (·.1)).Nodup)
    {n : String} {v : Document} (member : (some n,v) ∈ row) (d : Json.Draft) (shows : Shows d v) :
    Puts shape.fields (depth + 1) (fill e) n d := by
  refine puts_fill ?language ?source ?template ?client (Json.skip_shown shows)
  case language =>
    rintro rfl
    obtain ⟨name,listed,w,there,chooses⟩ := spelled.language
    cases Json.value_unique distinct member there
    exact (accepts_language v shows _).mpr ⟨name,listed,chooses⟩
  case source =>
    rintro rfl
    exact (Json.accepts_text v shows _).mpr (Json.value_unique distinct member spelled.source)
  case template =>
    rintro rfl
    exact (Json.accepts_text v shows _).mpr (Json.value_unique distinct member spelled.template)
  case client =>
    rintro rfl
    refine (accepts_client v shows _).mpr ?_
    have said := spelled.client
    cases is : e.target.client with
    | none =>
      rw [is] at said
      exact said v member
    | some c =>
      rw [is] at said
      obtain ⟨name,listed,w,there,chooses⟩ := said
      cases Json.value_unique distinct member there
      exact ⟨name,listed,chooses⟩

/-- A map that tells an entry is read as the entry. -/
theorem SpelledBy.reads (spelled : SpelledBy row e) (distinct : (row.filterMap (·.1)).Nodup)
    (shows : Shows d (.map row)) : Json.readRecord shape ⟨depth + 2,d⟩ = .ok e := by
  obtain ⟨name,-,v,language,-⟩ := spelled.language
  have named {n : String} {v : Document} (member : (some n,v) ∈ row) : n ∈ row.filterMap (·.1) :=
    List.mem_filterMap.mpr ⟨_,member,rfl⟩
  have client : "ClientType" ∈ row.filterMap (·.1) ∨ e.target.client = none := by
    have said := spelled.client
    cases is : e.target.client with
    | none => exact .inr rfl
    | some c =>
      rw [is] at said
      obtain ⟨name,-,v,member,-⟩ := said
      exact .inl (named member)
  have all := forall_required_iff (P := fun n => ∃ v, (some n,v) ∈ row).mpr
    ⟨⟨v,language⟩,⟨_,spelled.source⟩,⟨_,spelled.template⟩⟩
  refine (Json.readRecord_shown shows spelled.texts distinct (spelled.puts distinct) all).trans ?_
  exact congrArg _ (foldl_fill (named language) (named spelled.source) (named spelled.template) client)

/-- What is read from a map is told by it. -/
theorem exists_spelledBy (shows : Shows d (.map row)) (distinct : (row.filterMap (·.1)).Nodup)
    (read : Json.readRecord shape ⟨depth + 2,d⟩ = .ok e) : ∃ e, SpelledBy row e := by
  obtain ⟨fits,required⟩ := Json.readRecord_of_ok shows read
  have texts : ∀ f ∈ row, f.1.isSome := fun f member => by
    obtain ⟨n,is,-⟩ := fits f member
    simp [is]
  obtain ⟨⟨v,language⟩,⟨v',source⟩,⟨v'',template⟩⟩ :=
    forall_required_iff (P := fun n => ∃ v, (some n,v) ∈ row).mp required
  obtain ⟨l,name,listed,chooses⟩ := (fits _ language).accepted rfl rfl (accepts_language v)
  obtain ⟨s,rfl⟩ := (fits _ source).accepted rfl rfl (Json.accepts_text v')
  obtain ⟨t,rfl⟩ := (fits _ template).accepted rfl rfl (Json.accepts_text v'')
  by_cases there : ∃ u, (some "ClientType",u) ∈ row
  · obtain ⟨u,client⟩ := there
    obtain ⟨c,said⟩ := (fits _ client).accepted rfl rfl (accepts_client u)
    refine ⟨⟨⟨l,s,c⟩,t⟩,⟨⟨name,listed,v,language,chooses⟩,source,template,?_⟩,texts⟩
    cases c with
    | none => exact fun w within => (Json.value_unique distinct within client).trans said
    | some c =>
      obtain ⟨name,listed,chooses⟩ := said
      exact ⟨name,listed,u,client,chooses⟩
  · exact ⟨⟨⟨l,s,none⟩,t⟩,⟨⟨name,listed,v,language,chooses⟩,source,template,
      fun u member => absurd ⟨u,member⟩ there⟩,texts⟩

/-- A map is read as exactly the entry that it tells. -/
theorem accepts_shape (distinct : (row.filterMap (·.1)).Nodup) :
    Accepts (Json.readRecord shape) (depth + 2) (.map row) (SpelledBy row) := by
  intro d shows e
  refine ⟨fun read => ?_,fun spelled => spelled.reads distinct shows⟩
  obtain ⟨made,spelled⟩ := exists_spelledBy shows distinct read
  have same := (spelled.reads distinct shows).symm.trans read
  cases same
  exact spelled

/-- Two maps tell the same of an entry, whatever else stands in them and in whatever order. -/
structure Alike (row row' : List (Option String × Document)) : Prop where
  texts : (∀ f ∈ row, f.1.isSome) ↔ ∀ f ∈ row', f.1.isSome
  fields : ∀ n ∈ ["TemplateType","SourceType","TemplateName","ClientType"], ∀ v,
    (some n,v) ∈ row ↔ (some n,v) ∈ row'

theorem Alike.spelledBy_iff {row row' : List (Option String × Document)} (alike : Alike row row')
    {e : Entry} : SpelledBy row e ↔ SpelledBy row' e := by
  have language := alike.fields "TemplateType" (by simp)
  have source := alike.fields "SourceType" (by simp)
  have template := alike.fields "TemplateName" (by simp)
  have client := alike.fields "ClientType" (by simp)
  have same : Tells row e ↔ Tells row' e := by
    constructor
    · rintro ⟨l,s,t,c⟩
      exact ⟨by simpa only [language] using l,(source _).mp s,(template _).mp t,
        by simpa only [client] using c⟩
    · rintro ⟨l,s,t,c⟩
      exact ⟨by simpa only [language] using l,(source _).mpr s,(template _).mpr t,
        by simpa only [client] using c⟩
  exact ⟨fun spelled => ⟨same.mp spelled.toTells,alike.texts.mp spelled.texts⟩,
    fun spelled => ⟨same.mpr spelled.toTells,alike.texts.mpr spelled.texts⟩⟩

end Entry

namespace Manifest

variable {text : String} {rows : List (List (Option String × Document))}

/-- A list of maps, none of them with a name twice, is read as exactly the entries that they tell. -/
theorem parse_eq_ok_iff (drafts : Drafts text.toList (Shows · (.list (rows.map .map))))
    (distinct : ∀ row ∈ rows, (row.filterMap (·.1)).Nodup) (entries : List Entry) :
    parse text = .ok entries ↔ rows.Forall₂ Entry.SpelledBy entries := by
  have each : ∀ v ∈ rows.map Document.map, Accepts (Json.readRecord Entry.shape) 126 v
      (fun e => ∃ row, v = .map row ∧ Entry.SpelledBy row e) := by
    refine List.forall_mem_map.mpr fun row member d shows e => ?_
    have exactly : Accepts (Json.readRecord Entry.shape) (124 + 2) (.map row) (Entry.SpelledBy row) :=
      Entry.accepts_shape (distinct row member)
    simpa using exactly shows e
  have list : Accepts (Medium.list (Medium.record Entry.shape)) Json.deepest _ _ :=
    Json.accepts_list each
  rw [parse,mapError_eq_ok_iff,Json.parseAs_eq_ok_iff drafts list,List.forall₂_map_left_iff]
  simp

/-- The text spells a list of maps, and no name stands twice in a map. -/
structure SpellsRows (text : String) (rows : List (List (Option String × Document))) : Prop where
  spells : Spells text.toList (.list (rows.map .map))
  distinct : ∀ row ∈ rows, (row.filterMap (·.1)).Nodup

theorem SpellsRows.parse_iff (spells : SpellsRows text rows) (entries : List Entry) :
    parse text = .ok entries ↔ rows.Forall₂ Entry.SpelledBy entries :=
  parse_eq_ok_iff spells.spells.drafts spells.distinct entries

theorem exists_forall₂_iff {R : α → β → Prop} {as : List α} :
    (∃ bs, as.Forall₂ R bs) ↔ ∀ a ∈ as, ∃ b, R a b := by
  induction as with
  | nil => simp
  | cons a as ih =>
    rw [List.forall_mem_cons,← ih]
    constructor
    · rintro ⟨_,first | ⟨first,later⟩⟩
      exact ⟨⟨_,first⟩,⟨_,later⟩⟩
    · rintro ⟨⟨b,first⟩,⟨bs,later⟩⟩
      exact ⟨b :: bs,.cons first later⟩

theorem spelledBy_congr {rows' : List (List (Option String × Document))}
    (alike : rows.Forall₂ Entry.Alike rows') (entries : List Entry) :
    rows.Forall₂ Entry.SpelledBy entries ↔ rows'.Forall₂ Entry.SpelledBy entries := by
  induction alike generalizing entries with
  | nil => rfl
  | cons first _ ih => cases entries <;> simp [first.spelledBy_iff,ih]

/-- A text that spells a list of maps is a manifest if and only if every map tells an entry, and then
these are its entries, in their order. Neither the spelling matters nor the order of the members nor
what else stands among them, and a text that spells anything but a list is refused. -/
theorem parse_spelled (text : String) :
    (∀ rows, SpellsRows text rows →
      ((∃ entries, parse text = .ok entries) ↔ ∀ row ∈ rows, ∃ e, Entry.SpelledBy row e) ∧
      (∀ entries, parse text = .ok entries ↔ rows.Forall₂ Entry.SpelledBy entries) ∧
      ∀ text' rows', SpellsRows text' rows' → rows.Forall₂ Entry.Alike rows' →
        ∀ entries, parse text' = .ok entries ↔ parse text = .ok entries) ∧
    ∀ v, Spells text.toList v → (∀ items, v ≠ .list items) →
      ∃ message, parse text = .error (.invalidManifest message) := by
  constructor
  · intro rows spells
    refine ⟨?_,spells.parse_iff,?_⟩
    · rw [← exists_forall₂_iff]
      exact exists_congr spells.parse_iff
    · intro text' rows' spells' alike entries
      rw [spells.parse_iff,spells'.parse_iff]
      exact (spelledBy_congr alike entries).symm
  · intro v spells other
    have refused := Json.parseAs_eq_ok_iff spells.drafts
      (Json.accepts_noList (Json.readRecord (Entry.shape (V := Json.Part))) other)
    have same : parse text =
      (Json.parseAs (Json.readList (Json.readRecord Entry.shape)) text).mapError .invalidManifest := rfl
    rw [same]
    cases read : Json.parseAs (Json.readList (Json.readRecord Entry.shape)) text with
    | ok entries => exact absurd read ((refused entries).not.mpr id)
    | error message => exact ⟨message,rfl⟩

/-- Half of a character, without its partner. -/
theorem spellsString_half : Json.SpellsString ['"','\\','u','d','8','0','0','"'] none := by
  have code : Json.Code ['d','8','0','0'] 0xD800 :=
    .digits (k := 13) (l := 8) (m := 0) (n := 0) (by decide) (by decide) (by decide) (by decide)
  exact .quoted (.cons (.half code (by decide)) .nil)

theorem spells_plain (s : String) (visible : ∀ c ∈ s.toList, c ≠ '"' ∧ c ≠ '\\' ∧ 32 ≤ c.toNat) :
    Spells ('"' :: (s.toList ++ ['"'])) (.string (some s)) :=
  .string (Json.spellsString_plain visible)

/-- A manifest with white space, an escape in a name, a language in a map and a further member. -/
def scattered : String :=
  " [\x7b\"x\":[0,\"\\ud800\",\x7b\x7d],\"ClientType\":null,\"\\u0054emplateType\" :" ++
    "\x7b\"Liquid\":null\x7d,\"SourceType\":\"s\",\"TemplateName\":\"t\"\x7d]\n"

def scatteredRow : List (Option String × Document) :=
  [(some "x",.list [.number,.string none,.map []]),(some "ClientType",.null),
    (some "TemplateType",.map [(some "Liquid",.null)]),(some "SourceType",.string (some "s")),
    (some "TemplateName",.string (some "t"))]

theorem spells_scattered : Spells scattered.toList (.list [.map scatteredRow]) := by
  have blank : Json.IsWhite ' ' := .inl rfl
  have line : Json.IsWhite '\n' := .inr (.inr (.inl rfl))
  have list : Spells _ (.list [.number,.string none,.map []]) :=
    .list (.cons (.number (.positive .zero .none .none)) (.cons (.string spellsString_half)
      (.last (.noMembers (List.forall_mem_nil _)))))
  have escaped : Json.SpellsString ("\"\\u0054emplateType\"".toList) (some "TemplateType") := by
    have code : Json.Code ['0','0','5','4'] 0x54 :=
      .digits (k := 0) (l := 0) (m := 5) (n := 4) (by decide) (by decide) (by decide) (by decide)
    have rest := Json.spellsPieces_plain (s := "emplateType".toList) (by simp)
    exact .quoted (.cons (.code code (by decide)) rest)
  have map : Spells _ (.map [(some "Liquid",.null)]) :=
    .map (.last (Json.spellsString_plain (by simp)) .null)
  have row : Spells _ (.map scatteredRow) :=
    .map (.cons (Json.spellsString_plain (by simp)) list
      (.cons (Json.spellsString_plain (by simp)) .null
        (.cons (.after blank escaped) map
          (.cons (Json.spellsString_plain (by simp)) (spells_plain "s" (by simp))
            (.last (Json.spellsString_plain (by simp)) (spells_plain "t" (by simp)))))))
  have whole := Spells.before blank (.after line (.list (.last row)))
  convert whole using 1
  decide +kernel

theorem parse_unordered_and_unknown : parse scattered = .ok [⟨⟨.liquid,"s",none⟩,"t"⟩] ∧
    ∃ message, parse "null" = .error (.invalidManifest message) := by
  have rows : SpellsRows scattered [scatteredRow] := ⟨spells_scattered,by simp [scatteredRow]⟩
  have spelled : Entry.SpelledBy scatteredRow ⟨⟨.liquid,"s",none⟩,"t"⟩ :=
    ⟨⟨⟨"Liquid",by simp [Language.spellings],_,by simp [scatteredRow],.inr rfl⟩,
      by simp [scatteredRow],by simp [scatteredRow],by simp [scatteredRow]⟩,by simp [scatteredRow]⟩
  constructor
  · exact (((parse_spelled scattered).1 _ rows).2.1 _).mpr (.cons spelled .nil)
  · exact (parse_spelled "null").2 .null .null (by simp)

/-- The map tells an entry, but half of a character stands for the name of a further member. -/
theorem parse_refuses_half_character :
    let text := "[\x7b\"TemplateType\":\"liquid\",\"SourceType\":\"s\",\"TemplateName\":\"t\"," ++
      "\"\\ud800\":0\x7d]"
    let row : List (Option String × Document) := [(some "TemplateType",.string (some "liquid")),
      (some "SourceType",.string (some "s")),(some "TemplateName",.string (some "t")),(none,.number)]
    Spells text.toList (.list [.map row]) ∧ (row.map (·.1)).Nodup ∧
      Entry.Tells row ⟨⟨.liquid,"s",none⟩,"t"⟩ ∧ ∀ entries, parse text ≠ .ok entries := by
  intro text row
  have spells : Spells text.toList (.list [.map row]) := by
    have map : Spells _ (.map row) :=
      .map (.cons (Json.spellsString_plain (by simp)) (spells_plain "liquid" (by simp))
        (.cons (Json.spellsString_plain (by simp)) (spells_plain "s" (by simp))
          (.cons (Json.spellsString_plain (by simp)) (spells_plain "t" (by simp))
            (.last spellsString_half (.number (.positive .zero .none .none))))))
    convert Spells.list (.last map) using 1
    decide +kernel
  have rows : SpellsRows text [row] := ⟨spells,by simp [row]⟩
  refine ⟨spells,by simp [row],⟨⟨"liquid",?_⟩,?_,?_,?_⟩,?_⟩
  · exact ⟨by simp [Language.spellings],_,by simp [row],.inl rfl⟩
  · simp [row]
  · simp [row]
  · simp [row]
  · intro entries read
    cases (rows.parse_iff entries).mp read with
    | cons spelled _ =>
      have named := spelled.texts (none,.number) (by simp [row])
      cases named

end Manifest
end Placard
