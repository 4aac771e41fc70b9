import Mathlib
import Placard.Proofs.Handlebars.Printing
import Placard.Proofs.Json.Reading
import Placard.Proofs.Json.RoundTrip
import Placard.Proofs.Liquid.Printing
import Placard.Proofs.Run.Stored

/-! A field of the data embedded in a payload by the helper for JSON. Whatever stands in the field,
quotes and braces or whole trees, in either language the template renders to one document that has
the field for its text, and nothing of the field gets out of its place. -/
namespace Placard

def embedding : Language → String
  | .handlebars => "\x7b\"text\": \x7b\x7bjson title\x7d\x7d \x7d"
  | .liquid => "\x7b\"text\": \x7b\x7b title | json \x7d\x7d \x7d"

def embeddingFront : String := "\x7b\"text\": "

def embeddingBack : String := " \x7d"

def embeddedText (title : Json) : String := String.join [embeddingFront,title.compact,embeddingBack]

namespace Handlebars

def titleCall : Call := ⟨"json",[.path ⟨"title",.block 0,["title"]⟩],[]⟩

def titleNodes : Template :=
  [.text embeddingFront,.call ⟨1,10⟩ titleCall,.text embeddingBack]

theorem compile?_embedding : compile? (embedding .handlebars) = some titleNodes := by
  cbv

theorem render_embedding {s : Settings} (registered : s.helpers.lookup "json" = some Helper.json)
    {templates : List (String × Template)} {id : String} (held : templates.lookup id = some titleNodes)
    {fields : List (String × Json)} {title : Json} (found : fields.lookup "title" = some title) :
    render s templates id (.obj fields) = .ok (embeddedText title) := by
  have finds : titleCall.find s (.ofData (.obj fields)) =
      .ok ⟨"json",[⟨some title,some "title"⟩],[]⟩ := by
    simp [Call.find,titleCall,findTerms,findTerm,findNamed,find_field,found,Bind.bind,Except.bind,
      Pure.pure,Except.pure,Except.map]
  have call : Prints s (.ofData (.obj fields)) (.call ⟨1,10⟩ titleCall) title.compact :=
    prints_call finds registered rfl
  refine render_of_prints [(_,embeddingFront),(_,title.compact),(_,embeddingBack)] held ?_
  simp only [List.forall_mem_cons]
  exact ⟨prints_text _,call,prints_text _,List.forall_mem_nil _⟩

end Handlebars

namespace Liquid

def titleChain : Chain := ⟨.variable "title" [],[⟨"json",[],[]⟩]⟩

def titleNodes : List Node := [.text embeddingFront,.output titleChain,.text embeddingBack]

theorem elements_embedding : ∃ source, elements (embedding .liquid).toList =
    [⟨.text,embeddingFront.toList⟩,⟨.output titleChain,source⟩,⟨.text,embeddingBack.toList⟩] :=
  ⟨"\x7b\x7b title | json \x7d\x7d".toList,by cbv⟩

theorem compile?_embedding {x : Extensions} {h : Helper} (registered : x.filters.lookup "json" = some h) :
    compile? x (embedding .liquid) =
      some ⟨x,titleNodes⟩ := by
  obtain ⟨source,elements⟩ := elements_embedding
  have known : titleChain.known? x = some titleChain := by
    simp [Chain.known?,titleChain,FilterCall.known,registered]
  simp [compile?,elements,wholeBody,plainNode?,known,titleNodes]

theorem render_embedding {x : Extensions} (registered : x.filters.lookup "json" = some Helper.json)
    {fields : List (String × Json)} (numbers : Json.Each Json.IsInt64 (.obj fields)) {title : Json}
    (found : fields.lookup "title" = some title) :
    render ⟨x,titleNodes⟩ (.obj fields) = .ok (embeddedText title) := by
  obtain ⟨taken,fits⟩ := Value.exists_ofFields? (numbers.imp fun _ => fits_of_isInt64)
  have small := numbers.field found
  obtain ⟨u,made⟩ := Option.isSome_iff_exists.mp
    ((Value.isSome_ofJson?_iff title).mpr (small.imp fun _ => fits_of_isInt64))
  have back : u.toJson = title := Value.toJson_of_ofJson? (small.imp fun _ => isFinite_of_isInt64) made
  have evaluates : titleChain.eval ⟨x,[],taken⟩ .empty = .ok (.str title.compact) := by
    have filtered : FilterCall.apply ⟨x,[],taken⟩ .empty ⟨"json",[],[]⟩ u =
        .ok (.str title.compact) :=
      apply_registered registered rfl (by rw [back]; rfl) rfl
    simp [Chain.eval,titleChain,find_field fits found made,applyFilters,filtered,Bind.bind,
      Except.bind]
  refine render_of_prints [(_,embeddingFront),(_,title.compact),(_,embeddingBack)] fits ?_
  simp only [List.forall_mem_cons]
  exact ⟨prints_text _,prints_output evaluates,prints_text _,List.forall_mem_nil _⟩

end Liquid

namespace Engine

/-- An engine that has the helper for JSON compiles the embedding of its language. -/
theorem compile?_embedding {e : Engine} {h : Helper} (registered : e.helper? "json" = some h) :
    ∃ c, e.compile? (embedding e.language) = some c := by
  cases e with
  | handlebars e => exact ⟨_,by rw [language,compile?,Handlebars.compile?_embedding]; rfl⟩
  | liquid e => exact ⟨_,by rw [language,compile?,Liquid.compile?_embedding registered]; rfl⟩

/-- Any engine that has the helper for JSON renders the embedding to the same text. -/
theorem apply_embedding {e : Engine} (registered : e.helper? "json" = some Helper.json) {id : String}
    (held : e.compiled? id = e.compile? (embedding e.language)) {fields : List (String × Json)}
    (numbers : Json.Each Json.IsInt64 (.obj fields)) {title : Json}
    (found : fields.lookup "title" = some title) :
    e.apply id (.obj fields) = .ok (embeddedText title) := by
  cases e with
  | handlebars e =>
    rw [language,compile?,Handlebars.compile?_embedding,compiled?,Option.map_some] at held
    obtain ⟨t,stored,same⟩ := Option.map_eq_some_iff.mp held
    cases same
    simp [apply,HandlebarsEngine.apply,stored,Handlebars.render_embedding registered stored found]
  | liquid e =>
    rw [language,compile?,Liquid.compile?_embedding registered,compiled?,Option.map_some] at held
    obtain ⟨t,stored,same⟩ := Option.map_eq_some_iff.mp held
    cases same
    simp [apply,LiquidEngine.apply,stored,Liquid.render_embedding registered numbers found]

theorem helper?_standard_json (strict : Bool) (l : Language) :
    (standard strict l).helper? "json" = some Helper.json := by
  cases l <;> rfl

end Engine

namespace Json

/-- An object of one field, with blanks around what stands in it. -/
theorem gives_field {text : List Char} {v : Json} (gives : Gives text v) (name : String) :
    Gives ('{' :: (encodeString name ++ ':' :: ' ' :: (text ++ [' ','}']))) (.obj [(name,v)]) := by
  have blank : Text.isSpace ' ' := by decide
  have spaced : Gives (' ' :: text ++ [' ']) v := Drafts.spaceAfter blank (gives.space blank)
  have row : encodeString name ++ ':' :: ' ' :: (text ++ [' ','}']) =
      encodeString name ++ ':' :: (' ' :: text ++ [' ']) ++ ['}'] := by simp
  have member := LexesString.lastMember (N := (· = .ok ·)) (lexesString_encodeString name) spaced
  rw [row]
  refine member.map ?_
  rintro start stop _ ⟨_ | ⟨named,⟨⟩⟩,_ | ⟨reads,-⟩⟩ depth shallow
  cases shallow with
  | obj within =>
    have first := reads _ (within (name,v) List.mem_cons_self)
    simp [readDraft,readMembers,insertField,named,first,Bind.bind,Except.bind]

theorem parse_embeddedText {title : Json} (ordered : Each IsOrdered title)
    (exactly : Each IsExact title) (shallow : Shallow deepest (.obj [("text",title)])) :
    Json.parse (embeddedText title) = .ok (.obj [("text",title)]) := by
  have front : embeddingFront.toList = '{' :: (encodeString "text" ++ [':',' ']) := by decide
  have back : embeddingBack.toList = [' ','}'] := by decide
  have text : embeddedText title = String.ofList
      ('{' :: (encodeString "text" ++ ':' :: ' ' :: (title.print ++ [' ','}']))) := by
    rw [String.ext_iff]
    simp [embeddedText,compact,String.join,front,back]
  rw [text]
  exact (gives_field (gives_print ordered exactly) "text").parse shallow

end Json

namespace World

/-- Whatever title the data has, a run with the embedding stored for its request comes to the
document that has the title for its text. -/
theorem run_embedding {w : World} {settings : Settings} {location : Location} {kept : List Entry}
    {e : Entry} (loads : w.settings = .ok settings)
    (located : settings.source.location = .ok location)
    (stores : w.Stores settings location kept e (embedding settings.render.target.language))
    {fields : List (String × Json)} (parsed : Json.parse settings.render.data = .ok (.obj fields))
    (numbers : Json.Each Json.IsInt64 (.obj fields)) {title : Json}
    (found : fields.lookup "title" = some title) :
    w.run = .ok (Json.object [("text",title)]).compact := by
  have registered := Engine.helper?_standard_json settings.engines.strict
    settings.render.target.language
  have language := Registry.language_standard settings.engines.strict settings.render.target.language
  obtain ⟨c,compiles⟩ := Engine.compile?_embedding registered
  rw [language] at compiles
  obtain ⟨ordered,shallow,-⟩ := Json.tidy_of_parse (P := fun _ => True) (fun _ _ _ _ => trivial) parsed
  have reads := Json.parse_embeddedText (ordered.field found)
    ((numbers.field found).imp fun _ => Json.IsInt64.isExact) (shallow.only found "text")
  refine stores.run loads located compiles parsed (fun engine bare held => ?_) reads
  have registered := (Engine.helper?_congr bare "json").trans registered
  have same : engine.language = settings.render.target.language := by
    rw [← Engine.language_bare,bare,Engine.language_bare,language]
  refine Engine.apply_embedding registered ?_ numbers found
  rw [held,same,Engine.compile?_congr bare,compiles]

def sharpItems : List Json := [.str "\"\x7d\x7b\x7b\\",.int (-1)]

def sharpTitle : Json := .arr sharpItems

def announcement (l : Language) : World :=
  ofTexts
    [("config/default.json","\x7b\"render\":\x7b\"template_type\":\"" ++ l.name ++
        "\",\"source_type\":\"disk\",\"data\":" ++
        (Json.str (Json.obj [("title",sharpTitle)]).compact).compact ++ "\x7d\x7d"),
      ("./TransformerConfig.json","[[\"" ++ l.name ++ "\",\"disk\",\"title\",null]]"),
      ("./EventTemplate/" ++ l.name ++ "/title",embedding l ++ "\n")]
    []

def announcementSettings (l : Language) : Settings :=
  ⟨.default,⟨⟨l,"disk",none⟩,(Json.obj [("title",sharpTitle)]).compact⟩,.default,.default⟩

theorem announcement_stores (l : Language) :
    (announcement l).settings = .ok (announcementSettings l) ∧
      (announcement l).Stores (announcementSettings l) (.folder ".") [⟨⟨l,"disk",none⟩,"title"⟩]
        ⟨⟨l,"disk",none⟩,"title"⟩ (embedding l) := by
  have evaluated : (announcement l).settings.toOption = some (announcementSettings l) ∧
      (announcement l).requested? (announcementSettings l) (.folder ".") =
        some [⟨⟨l,"disk",none⟩,"title"⟩] ∧
      (Setup.check (registry (announcementSettings l)) .overwrite
        [⟨⟨l,"disk",none⟩,"title"⟩]).toOption = some () ∧
      ((announcement l).fetch (.folder ".") (Entry.path (.folder ".") "TransformerConfig.json"
        ⟨⟨l,"disk",none⟩,"title"⟩)).toOption = some (embedding l ++ "\n") ∧
      withoutFinalNewline (embedding l ++ "\n") = embedding l := by
    cases l <;> decide +kernel
  simp only [toOption_eq_some_iff] at evaluated
  obtain ⟨loads,requested,checks,found,trimmed⟩ := evaluated
  have text := Setup.textAt_of_ok found
  refine ⟨loads,kept_of_requested? rfl requested,(Setup.check_eq_ok_iff _ _ _).mp checks,?_,?_,?_,?_⟩
  · exact List.forall_mem_singleton.mpr (found.trans (congrArg _ text.symm))
  · intro x member other
    exact absurd (List.mem_singleton.mp member) other
  · simp [Setup.last?,announcementSettings]
  · rw [← trimmed,← text]
    rfl

theorem run_embedding_quotes_and_braces :
    (announcement .handlebars).run =
      .ok "\x7b\"text\":[\"\\\"\x7d\x7b\x7b\\\\\",-1]\x7d" ∧
    (announcement .liquid).run =
      .ok "\x7b\"text\":[\"\\\"\x7d\x7b\x7b\\\\\",-1]\x7d" := by
  have leaves : ∀ v ∈ sharpItems, Json.IsLeaf v := by simp [sharpItems,Json.IsLeaf]
  have each {P : Json → Prop} (outer : P (.obj [("title",sharpTitle)])) (middle : P sharpTitle)
      (inner : ∀ v ∈ sharpItems, P v) : Json.Each P (.obj [("title",sharpTitle)]) := by
    refine Json.each_obj_iff.mpr ⟨outer,List.forall_mem_singleton.mpr ?_⟩
    refine Json.each_arr_iff.mpr ⟨middle,fun v member => ?_⟩
    exact (Json.each_leaf_iff (leaves v member)).mpr (inner v member)
  have numbers : Json.Each Json.IsInt64 (.obj [("title",sharpTitle)]) := by
    refine each trivial trivial ?_
    simp only [sharpItems,List.forall_mem_cons]
    exact ⟨trivial,⟨by decide,by decide⟩,List.forall_mem_nil _⟩
  have ordered : Json.Each Json.IsOrdered (.obj [("title",sharpTitle)]) :=
    each (by simp [Json.IsOrdered,ascending_cons]) trivial (by simp [sharpItems,Json.IsOrdered])
  have shallow : Json.Shallow Json.deepest (.obj [("title",sharpTitle)]) := by
    refine .obj (List.forall_mem_singleton.mpr (.arr ?_))
    simp only [sharpItems,List.forall_mem_cons]
    exact ⟨.str _,.int _,List.forall_mem_nil _⟩
  have exactly := numbers.imp fun _ => Json.IsInt64.isExact
  have parsed := Json.parse_compact ordered exactly shallow
  have text : (Json.object [("text",sharpTitle)]).compact =
      "\x7b\"text\":[\"\\\"\x7d\x7b\x7b\\\\\",-1]\x7d" := by
    decide +kernel
  rw [← text]
  obtain ⟨loads,stores⟩ := announcement_stores .handlebars
  obtain ⟨loads',stores'⟩ := announcement_stores .liquid
  exact ⟨run_embedding loads rfl stores parsed numbers rfl,
    run_embedding loads' rfl stores' parsed numbers rfl⟩

end World
end Placard
