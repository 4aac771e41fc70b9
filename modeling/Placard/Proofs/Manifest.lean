import Mathlib.Data.List.Nodup
import Placard.Proofs.Manifest.Format

/-! Manifests written and read again. An entry is written as an object of its fields, and whatever
order they stand in, an object of these fields is read as the entry. -/
namespace Placard

namespace Entry

/-- The members of an entry as they are written; an absent client is not mentioned. -/
def members (e : Entry) : List (String × Json) :=
  [("TemplateType",.str e.target.language.name),("SourceType",.str e.target.source),
    ("TemplateName",.str e.template)] ++
  (e.target.client.map fun c => ("ClientType",.str c.name)).toList

/-- The members of an object say what the fields of the entry are, and maybe more. -/
structure DescribedBy (row : List (String × Json)) (e : Entry) : Prop where
  distinct : (row.map (·.1)).Nodup
  language : ("TemplateType",.str e.target.language.name) ∈ row
  source : ("SourceType",.str e.target.source) ∈ row
  template : ("TemplateName",.str e.template) ∈ row
  client : ∀ v, ("ClientType",v) ∈ row ↔ ∃ c, e.target.client = some c ∧ v = .str c.name

theorem describedBy_members (e : Entry) : DescribedBy e.members e := by
  obtain ⟨⟨l,s,c⟩,t⟩ := e
  cases c <;> constructor <;> simp [members]

theorem DescribedBy.perm {row row' : List (String × Json)} {e : Entry} (described : DescribedBy row e)
    (same : row'.Perm row) : DescribedBy row' e where
  distinct := (same.map _).nodup_iff.mpr described.distinct
  language := same.mem_iff.mpr described.language
  source := same.mem_iff.mpr described.source
  template := same.mem_iff.mpr described.template
  client := fun v => same.mem_iff.trans (described.client v)

theorem DescribedBy.spelledBy {row : List (String × Json)} {e : Entry}
    (described : DescribedBy row e) : SpelledBy (row.map fun f => (some f.1,f.2.document)) e where
  language := by
    have listed : e.target.language.name ∈ e.target.language.spellings := by
      cases e.target.language <;> simp [Language.name,Language.spellings]
    exact ⟨_,listed,_,List.mem_map_of_mem described.language,.inl (Json.document_str _)⟩
  source := by
    simpa using List.mem_map_of_mem (f := fun f => (some f.1,f.2.document)) described.source
  template := by
    simpa using List.mem_map_of_mem (f := fun f => (some f.1,f.2.document)) described.template
  client := by
    cases is : e.target.client with
    | none =>
      intro v member
      obtain ⟨⟨n,w⟩,within,same⟩ := List.mem_map.mp member
      cases same
      obtain ⟨c,some,-⟩ := (described.client w).mp within
      cases is.symm.trans some
    | some c =>
      have listed : c.name ∈ c.spellings := by cases c <;> simp [Client.name,Client.spellings]
      have member := (described.client _).mpr ⟨c,is,rfl⟩
      exact ⟨_,listed,_,List.mem_map_of_mem member,.inl (Json.document_str _)⟩
  texts := List.forall_mem_map.mpr fun _ _ => rfl

theorem isExact_members (e : Entry) : ∀ f ∈ e.members, Json.Each Json.IsExact f.2 := by
  have text (s : String) : Json.Each Json.IsExact (.str s) :=
    (Json.each_leaf_iff (by trivial)).mpr trivial
  obtain ⟨⟨l,s,c⟩,t⟩ := e
  cases c <;> simp [members,text]

theorem toJson_eq (e : Entry) : e.toJson = .obj (Json.fieldsOf e.members) := by
  rw [toJson,Json.object,members]
  cases e.target.client <;> rfl

end Entry

namespace Manifest

def serialized (entries : List Entry) : String :=
  (Json.arr (entries.map fun e => .obj e.members)).compact

/-- Entries are read back from a list of objects of their members, in whatever order these stand. -/
theorem parse_arranged {arranged : Entry → List (String × Json)}
    (same : ∀ e, (arranged e).Perm e.members) (entries : List Entry) :
    parse (Json.arr (entries.map fun e => .obj (arranged e))).compact = .ok entries := by
  have numbers : Json.Each Json.IsExact (.arr (entries.map fun e => .obj (arranged e))) := by
    refine Json.each_arr_iff.mpr ⟨trivial,List.forall_mem_map.mpr fun e _ => ?_⟩
    refine Json.each_obj_iff.mpr ⟨trivial,fun f member => ?_⟩
    exact e.isExact_members f ((same e).mem_iff.mp member)
  have shown : Json.Drafts (Json.arr (entries.map fun e => .obj (arranged e))).compact.toList
      (Json.Shows · (.list ((entries.map fun e =>
        (arranged e).map fun f => (some f.1,f.2.document)).map .map))) := by
    simpa [Json.compact,Json.document,Function.comp_def] using
      (Json.mirrored_print numbers).imp fun d mirrors => mirrors.shows
  have described (e : Entry) : Entry.DescribedBy (arranged e) e := e.describedBy_members.perm (same e)
  refine (parse_eq_ok_iff shown ?distinct entries).mpr ?spelled
  case distinct =>
    refine List.forall_mem_map.mpr fun e _ => ?_
    simpa [List.filterMap_map] using (described e).distinct
  case spelled =>
    exact List.forall₂_map_left_iff.mpr (List.forall₂_same.mpr fun e _ => (described e).spelledBy)

/-- A manifest that was written from entries is read as these entries, whether their members stand in
the order of the fields or of their names. So any manifest that can be read is read as before once it
is written anew. -/
theorem parse_serialized (entries : List Entry) (text : String) :
    parse (serialized entries) = .ok entries ∧ parse (print entries) = .ok entries ∧
      (parse text).bind (fun listed => parse (serialized listed)) = parse text := by
  have back (entries : List Entry) : parse (serialized entries) = .ok entries :=
    parse_arranged (fun _ => .refl _) entries
  refine ⟨back entries,?_,?_⟩
  · have sorted (e : Entry) : (Json.fieldsOf e.members).Perm e.members :=
      Json.perm_fieldsOf e.describedBy_members.distinct
    simpa only [print,← Entry.toJson_eq] using parse_arranged sorted entries
  · cases parse text with
    | error e => rfl
    | ok listed => exact back listed

example : serialized [⟨⟨.liquid,"push",some .slack⟩,"a\"b"⟩,⟨⟨.handlebars,"",none⟩,"t"⟩] =
    "[\x7b\"TemplateType\":\"liquid\",\"SourceType\":\"push\",\"TemplateName\":\"a\\\"b\"," ++
      "\"ClientType\":\"slack\"\x7d," ++
      "\x7b\"TemplateType\":\"handlebars\",\"SourceType\":\"\",\"TemplateName\":\"t\"\x7d]" := by
  decide +kernel

end Manifest
end Placard
