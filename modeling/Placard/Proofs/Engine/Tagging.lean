import Placard.Proofs.Engine.Lookup
import Placard.Proofs.Liquid.Tagging

/-! A custom tag within a template. Literal text and outputs around it are rendered as two templates
would be, the one before the tag with the data and the one after it with the variables of the tag laid
over the data. -/
namespace Placard

namespace Liquid

/-- Literal text without a brace, or an output of a path of names. -/
inductive Piece where
  | text (s : String) (plain : '{' ∉ s.toList)
  | output (first : String) (names : List String)
      (identifiers : ∀ n ∈ first :: names, Text.isIdentifier n.toList)

def Piece.written : Piece → String
  | .text s _ => s
  | .output first names _ => lookupText first names .liquid

def written (row : List Piece) : String := String.join (row.map Piece.written)

/-- The path of an output is a variable, since it does not begin like a literal, or it is a literal
alone. -/
def Piece.Readable : Piece → Prop
  | .text _ _ => True
  | .output first names _ =>
    isVariable first.toList ∨ names = [] ∧ first.toList ∈ wordLiterals.map (·.1)

theorem isSome_readPath?_iff {first : List Char} {names : List (List Char)} :
    (readPath? first names).isSome ↔
      isVariable first ∨ names = [] ∧ first ∈ wordLiterals.map (·.1) := by
  have alone : ∀ w ∈ wordLiterals, wordLiteral? w.1 = some (w.2,[]) := by
    simp [wordLiterals,wordLiteral?,Text.after?_cons]
  rw [readPath?,← wordLiteral?_eq_none_iff]
  rcases word : wordLiteral? first with _ | ⟨v,more⟩
  · simp
  · have whole : more = [] ↔ first ∈ wordLiterals.map (·.1) := by
      constructor
      · rintro rfl
        obtain ⟨w,member,here⟩ := List.exists_of_findSome?_eq_some word
        obtain ⟨rest,spelled,same⟩ := Option.map_eq_some_iff.mp here
        cases same
        rw [Text.after?_eq_some_iff,List.append_nil] at spelled
        exact List.mem_map.mpr ⟨w,member,spelled⟩
      · intro member
        obtain ⟨w,held,rfl⟩ := List.mem_map.mp member
        cases word.symm.trans (alone w held)
        rfl
    by_cases ends : more = [] <;> simp [ends,← whole,and_comm]

/-- The nodes of literal text and the pieces after it, if all of them can be read. Text after text
makes one node with it. -/
def nodes? (l : List Char) : List Piece → Option (List Node)
  | [] => some (textNodes l)
  | .text s _ :: rest => nodes? (l ++ s.toList) rest
  | .output first names _ :: rest => do
    let e ← readPath? first.toList (names.map String.toList)
    let ns ← nodes? [] rest
    return textNodes l ++ .output ⟨e,[]⟩ :: ns

theorem isSome_nodes?_iff {l : List Char} {row : List Piece} :
    (nodes? l row).isSome ↔ ∀ p ∈ row, p.Readable := by
  induction row generalizing l with
  | nil => simp [nodes?]
  | cons p row ih =>
    rw [List.forall_mem_cons,← ih (l := [])]
    cases p with
    | text s plain =>
      rw [nodes?,Piece.Readable,true_and]
      exact ih.trans ih.symm
    | output first names identifiers =>
      have path : (Piece.output first names identifiers).Readable ↔
          (readPath? first.toList (names.map String.toList)).isSome := by
        rw [isSome_readPath?_iff,List.map_eq_nil_iff,Piece.Readable]
      rw [path]
      cases here : readPath? first.toList (names.map String.toList) <;>
        cases later : nodes? [] row <;> simp [nodes?,here,later]

theorem prints_textNodes (l : List Char) : ∀ n ∈ textNodes l, n.prints := by
  by_cases empty : l = [] <;> simp [textNodes,empty,Node.prints]

theorem prints_of_nodes? {l : List Char} {row : List Piece} {ns : List Node}
    (read : nodes? l row = some ns) : ∀ n ∈ ns, n.prints := by
  induction row generalizing l ns with
  | nil =>
    cases read
    exact prints_textNodes l
  | cons p row ih =>
    cases p with
    | text s plain => exact ih read
    | output first names identifiers =>
      simp only [nodes?,Option.bind_eq_bind,Option.bind_eq_some_iff,Option.pure_def,
        Option.some.injEq] at read
      obtain ⟨e,-,rest,later,rfl⟩ := read
      rw [List.forall_mem_append,List.forall_mem_cons]
      exact ⟨prints_textNodes l,rfl,ih later⟩

theorem path_toList (first : String) (names : List String) (rest : List Char) :
    (lookupText first names .liquid).toList ++ rest = '{' :: '{' :: ' ' :: (first.toList ++
      Text.afterPoints (names.map String.toList) ++ ' ' :: '}' :: '}' :: rest) := by
  simp [lookupText_toList]

theorem compiles_path {x : Extensions} {first : String} {names : List String}
    (identifiers : ∀ n ∈ first :: names, Text.isIdentifier n.toList) {rest : List Char}
    {nodes : Option (List Node)} (later : Compiles x rest nodes) :
    Compiles x ((lookupText first names .liquid).toList ++ rest)
      ((readPath? first.toList (names.map String.toList)).bind fun e =>
        nodes.map (.output ⟨e,[]⟩ :: ·)) := by
  have listed : ∀ n ∈ first.toList :: names.map String.toList, Text.isIdentifier n := by
    rw [← List.map_cons]
    exact List.forall_mem_map.mpr identifiers
  have read := output?_read listed rest
  rw [path_toList]
  cases found : readPath? first.toList (names.map String.toList) with
  | some e =>
    rw [found,Option.map_some] at read
    refine compiles_output read rfl ?_ later
    simp only [List.length_cons,List.length_append]
    omega
  | none =>
    rw [found,Option.map_none] at read
    exact compiles_unread read

theorem compiles_row {x : Extensions} {l : List Char} (plain : '{' ∉ l) (row : List Piece)
    {rest : List Char} (stops : Stops rest) {nodes : Option (List Node)}
    (later : Compiles x rest nodes) :
    Compiles x (l ++ ((written row).toList ++ rest))
      ((nodes? l row).bind fun ns => nodes.map (ns ++ ·)) := by
  -- The text before the row is whatever of it no output has closed yet, so it varies with the row.
  induction row generalizing l with
  | nil => exact compiles_literal plain stops later
  | cons p row ih =>
    have split : (written (p :: row)).toList ++ rest =
        p.written.toList ++ ((written row).toList ++ rest) := by
      simp [written,String.join_cons]
    rw [split]
    cases p with
    | text s bare =>
      have joined : '{' ∉ l ++ s.toList := by simp [plain,bare]
      simpa [nodes?,Piece.written] using ih joined
    | output first names identifiers =>
      have after := compiles_path identifiers (ih (l := []) List.not_mem_nil)
      have ends : Stops ((lookupText first names .liquid).toList ++
          ([] ++ ((written row).toList ++ rest))) := by
        rw [path_toList]
        exact stops_output _
      have whole := compiles_literal plain ends after
      have made : ((nodes? l (.output first names identifiers :: row)).bind fun ns =>
          nodes.map (ns ++ ·)) =
          ((readPath? first.toList (names.map String.toList)).bind fun e =>
            ((nodes? [] row).bind fun ns => nodes.map (ns ++ ·)).map (.output ⟨e,[]⟩ :: ·)).map
              (textNodes l ++ ·) := by
        rw [nodes?]
        cases readPath? first.toList (names.map String.toList) <;> cases nodes? [] row <;>
          cases nodes <;> simp
      rw [made]
      exact whole

theorem compile?_written (x : Extensions) (row : List Piece) :
    compile? x (written row) = (nodes? [] row).map fun ns => ⟨x,ns⟩ := by
  have compiles := compiles_row (x := x) List.not_mem_nil row stops_nil compiles_nil
  rw [List.nil_append,List.append_nil] at compiles
  rw [← String.ofList_toList (s := written row),compile?_of_compiles compiles]
  cases nodes? [] row <;> simp

/-- The words of a tag are names, and those of its argument are variables. -/
structure TagWords (name key field : String) : Prop where
  name_identifier : Text.isIdentifier name.toList
  key_identifier : Text.isIdentifier key.toList
  key_variable : isVariable key.toList
  field_identifier : Text.isIdentifier field.toList
  field_variable : isVariable field.toList

def tagText (name key field : String) : String :=
  "\x7b% " ++ name ++ " " ++ key ++ " = " ++ field ++ " %\x7d"

theorem tag_toList (name key field : String) (rest : List Char) :
    (tagText name key field).toList ++ rest = '{' :: '%' :: ' ' :: (name.toList ++ ' ' ::
      (key.toList ++ ' ' :: '=' :: ' ' :: (field.toList ++ ' ' :: '%' :: '}' :: rest))) := by
  simp [tagText]

theorem compiles_tag {x : Extensions} {name key field : String} (words : TagWords name key field)
    (registered : (x.tags.lookup name).isSome) {rest : List Char} {nodes : Option (List Node)}
    (later : Compiles x rest nodes) :
    Compiles x ((tagText name key field).toList ++ rest)
      (nodes.map (.custom name [(key,.variable field [])] :: ·)) := by
  have read := tag?_given words.name_identifier words.key_identifier words.key_variable
    words.field_identifier words.field_variable rest
  rw [String.ofList_toList,variableOf_single,variableOf_single] at read
  rw [tag_toList]
  refine compiles_custom read registered rfl ?_ later
  simp only [List.length_cons,List.length_append]
  omega

/-- The pieces on either side of a tag compile as they do alone. -/
theorem compile?_tagged {x : Extensions} {name key field : String} (words : TagWords name key field)
    (registered : (x.tags.lookup name).isSome) (A B : List Piece) :
    compile? x (written A ++ tagText name key field ++ written B) =
      (nodes? [] A).bind fun ns => (nodes? [] B).map fun ms =>
        ⟨x,ns ++ .custom name [(key,.variable field [])] :: ms⟩ := by
  have last := compiles_row (x := x) List.not_mem_nil B stops_nil compiles_nil
  have tag := compiles_tag words registered last
  rw [List.nil_append,List.append_nil] at tag
  have stops : Stops ((tagText name key field).toList ++ (written B).toList) := by
    rw [tag_toList]
    exact stops_tag _
  have compiles := compiles_row List.not_mem_nil A stops tag
  have shape : written A ++ tagText name key field ++ written B = String.ofList
      ([] ++ ((written A).toList ++ ((tagText name key field).toList ++ (written B).toList))) := by
    rw [← String.toList_inj]
    simp
  rw [shape,compile?_of_compiles compiles]
  cases nodes? [] A <;> cases nodes? [] B <;> simp

theorem isSome_compile?_tagged_iff {x : Extensions} {name key field : String}
    (words : TagWords name key field) (registered : (x.tags.lookup name).isSome) (A B : List Piece) :
    (compile? x (written A ++ tagText name key field ++ written B)).isSome ↔
      ∀ p ∈ A ++ B, p.Readable := by
  rw [compile?_tagged words registered,List.forall_mem_append,← isSome_nodes?_iff (l := []),
    ← isSome_nodes?_iff (l := [])]
  cases nodes? [] A <;> cases nodes? [] B <;> simp

end Liquid

namespace Engine
open Liquid (Piece written tagText TagWords overlay)

/-- A text renders just if it compiles and its template renders. -/
theorem renderText_liquid_ok_iff {e : LiquidEngine} {id text rendered : String} {data : Json} :
    (liquid e).renderText id text data = .ok rendered ↔
      ∃ t, Liquid.compile? e.extensions text = some t ∧ Liquid.render t data = .ok rendered := by
  cases compiles : Liquid.compile? e.extensions text with
  | none =>
    have uncompiled : (liquid e).compile? text = none := by rw [compile?,compiles,Option.map_none]
    simp [renderText_uncompiled uncompiled]
  | some t => simp [renderText_liquid e compiles,mapError_eq_ok_iff]

theorem rendered_or_refused {e : LiquidEngine} {text : String} {t : Liquid.Template}
    (compiles : Liquid.compile? e.extensions text = some t) (id : String) (data : Json) :
    (∃ rendered, (liquid e).renderText id text data = .ok rendered) ∨
      Refuses ((liquid e).renderText id text data) := by
  rw [renderText_liquid e compiles]
  cases Liquid.render t data with
  | ok rendered => exact .inl ⟨rendered,rfl⟩
  | error reason => exact .inr ⟨_,rfl⟩

/-- A custom tag extends the data for the rest of the template, and only there: the pieces before the
tag are rendered with the data, those after it with the variables of the tag laid over the data, and
the tag itself is given the field. Where the pieces can be read, whatever fails in this fails the whole
template; a piece that cannot be read keeps it from being compiled. -/
theorem renderText_tagged {e : LiquidEngine} {name key field : String} {f : TagFunction}
    (words : TagWords name key field) (registered : e.extensions.tags.lookup name = some f)
    {fields : List (String × Json)} (numbers : Json.Each Liquid.Fits (.obj fields)) {v : Json}
    (finite : v.Each Liquid.IsFinite) (found : fields.lookup field = some v)
    (returns : ∀ vars, f [(key,v)] = .ok vars → ∀ p ∈ vars, p.2.Each Liquid.Fits)
    (A B : List Piece) (id : String) :
    let rendered := (liquid e).renderText id (written A ++ tagText name key field ++ written B)
      (.obj fields)
    (∀ text, rendered = .ok text ↔ ∃ before vars after,
      (liquid e).renderText id (written A) (.obj fields) = .ok before ∧ f [(key,v)] = .ok vars ∧
      (liquid e).renderText id (written B) (.obj (overlay fields vars)) = .ok after ∧
      text = before ++ after) ∧
    ((∀ p ∈ A ++ B, p.Readable) → (∃ text, rendered = .ok text) ∨ Refuses rendered) ∧
    ((∃ p ∈ A ++ B, ¬ p.Readable) → rendered = .error (.compileFailed id)) := by
  intro rendered
  have tagged : (e.extensions.tags.lookup name).isSome := by rw [registered]; rfl
  -- The text compiles piece by piece, so that of either side of the tag compiles as it does alone.
  have compiles := Liquid.compile?_tagged words tagged A B
  have compiled := Liquid.isSome_compile?_tagged_iff words tagged A B
  refine ⟨fun text => ?_,fun readable => ?_,fun unread => ?_⟩
  · have custom {ns ms : List Liquid.Node} (first : Liquid.nodes? [] A = some ns)
        (last : Liquid.nodes? [] B = some ms) (text : String) :=
      Liquid.render_custom registered numbers finite found returns (Liquid.prints_of_nodes? first)
        (Liquid.prints_of_nodes? last) text
    simp only [rendered,renderText_liquid_ok_iff,compiles,Liquid.compile?_written,
      Option.bind_eq_some_iff,Option.map_eq_some_iff]
    constructor
    · rintro ⟨_,⟨ns,first,ms,last,rfl⟩,whole⟩
      obtain ⟨before,vars,after,front,ran,back,rfl⟩ := (custom first last text).mp whole
      exact ⟨before,vars,after,⟨_,⟨ns,first,rfl⟩,front⟩,ran,⟨_,⟨ms,last,rfl⟩,back⟩,rfl⟩
    · rintro ⟨before,vars,after,⟨_,⟨ns,first,rfl⟩,front⟩,ran,⟨_,⟨ms,last,rfl⟩,back⟩,rfl⟩
      have whole := (custom first last _).mpr ⟨before,vars,after,front,ran,back,rfl⟩
      exact ⟨_,⟨ns,first,ms,last,rfl⟩,whole⟩
  · obtain ⟨t,made⟩ := Option.isSome_iff_exists.mp (compiled.mpr readable)
    exact rendered_or_refused made id (.obj fields)
  · obtain ⟨p,member,unreadable⟩ := unread
    have none : Liquid.compile? e.extensions (written A ++ tagText name key field ++ written B) =
        .none := by
      rw [← Option.not_isSome_iff_eq_none,compiled]
      exact fun readable => unreadable (readable p member)
    refine renderText_uncompiled (e := liquid e) ?_ id (.obj fields)
    rw [compile?,none,Option.map_none]

def introduce : TagFunction := fun given =>
  .ok [("name",.str "guest"),("whom",(given.lookup "to").getD .null)]

def introducing : LiquidEngine := LiquidEngine.empty.registerTag "introduce" introduce

/-- Before the tag the name is that of the data, after it that of the tag. -/
theorem tag_sets_for_rest :
    (liquid introducing).renderText "a"
      "\x7b\x7b name \x7d\x7d\x7b% introduce to = name %\x7d \x7b\x7b name \x7d\x7d \x7b\x7b whom \x7d\x7d"
      (.obj [("name",.str "Ann")]) = .ok "Ann guest Ann" := by
  have words : TagWords "introduce" "to" "name" := ⟨by decide,by decide,by decide,by decide,by decide⟩
  have numbers : Json.Each Liquid.Fits (.obj [("name",.str "Ann")]) :=
    (Liquid.Value.isSome_ofJson?_iff _).mp rfl
  have finite : Json.Each Liquid.IsFinite (.str "Ann") := (Json.each_leaf_iff (by trivial)).mpr trivial
  have returns : ∀ vars, introduce [("to",.str "Ann")] = .ok vars →
      ∀ p ∈ vars, p.2.Each Liquid.Fits := by
    intro vars made
    cases made
    simp only [List.forall_mem_cons]
    have leaf (s : String) : Json.Each Liquid.Fits (.str s) :=
      (Json.each_leaf_iff (by trivial)).mpr trivial
    exact ⟨leaf _,leaf _,List.forall_mem_nil _⟩
  have name : ∀ n ∈ ["name"], Text.isIdentifier n.toList := by decide
  have whom : ∀ n ∈ ["whom"], Text.isIdentifier n.toList := by decide
  have space : '{' ∉ " ".toList := by decide
  refine ((renderText_tagged words rfl numbers finite rfl returns [.output "name" [] name]
    [.text " " space,.output "name" [] name,.text " " space,.output "whom" [] whom] "a").1 _).mpr ?_
  exact ⟨"Ann",_," guest Ann",by cbv,rfl,by cbv,rfl⟩

def attendance : List (String × Json) := [("name",.str "Ann"),("nullable",.str "x")]

/-- A path that begins like a literal is no variable, neither in an output nor as the argument of a
tag, and no tag is called by two words. -/
theorem literal_prefixed_path_uncompiled :
    (liquid introducing).renderText "a"
      "\x7b\x7b nullable \x7d\x7d\x7b% introduce to = name %\x7d" (.obj attendance) =
        .error (.compileFailed "a") ∧
    ¬ Refuses ((liquid introducing).renderText "a"
      "\x7b\x7b nullable \x7d\x7d\x7b% introduce to = name %\x7d" (.obj attendance)) ∧
    (liquid introducing).renderText "a" "\x7b% introduce to = nullable %\x7d" (.obj attendance) =
      .error (.compileFailed "a") ∧
    (liquid introducing).renderText "a" "" (.obj attendance) = .ok "" ∧
    (∃ vars, introduce [("to",.str "x")] = .ok vars ∧
      (liquid introducing).renderText "a" "" (.obj (overlay attendance vars)) = .ok "") ∧
    (liquid (LiquidEngine.empty.registerTag "introduce it" introduce)).renderText "a"
      "\x7b% introduce it to = name %\x7d" (.obj attendance) = .error (.compileFailed "a") := by
  have first : (liquid introducing).renderText "a"
      "\x7b\x7b nullable \x7d\x7d\x7b% introduce to = name %\x7d" (.obj attendance) =
        .error (.compileFailed "a") := by cbv
  refine ⟨first,?_,by cbv,by cbv,⟨_,rfl,by cbv⟩,by cbv⟩
  rintro ⟨cause,refused⟩
  cases first.symm.trans refused

end Engine
end Placard
