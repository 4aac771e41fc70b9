import Placard.Handlebars.Template
import Placard.Proofs.Text.Identifier

/-! How tags that print are read: a path of names, and a call by a name whose arguments are known.
Whatever stands after such a tag is left as it is. -/
namespace Placard.Handlebars
open Text (isIdentifier isIdentifierPart startsIdentifier endsIdentifier afterPoints)

theorem isSymbol_of_part {c : Char} (part : isIdentifierPart c) : isSymbol c := by
  simp only [isIdentifierPart,Bool.or_eq_true,decide_eq_true_eq] at part
  rcases part with (letter | rfl) | rfl
  · simp [isSymbol,letter]
  · decide
  · decide

theorem endsIdentifier_of_endsHere {s : List Char} (ends : endsHere s) : endsIdentifier s := by
  cases s with
  | nil => rfl
  | cons c rest =>
    have other : isSymbol c = false := by simpa [endsHere] using ends
    have apart : isIdentifierPart c = false :=
      Bool.eq_false_iff.mpr fun part => by simp [isSymbol_of_part part] at other
    simp [endsIdentifier,apart]

theorem identifier?_of_symbols {name rest : List Char} (nonempty : name ≠ [])
    (symbols : ∀ c ∈ name, isSymbol c) (ends : endsHere rest) :
    identifier? (name ++ rest) = some (name,rest) := by
  have stop : rest.takeWhile isSymbol = [] ∧ rest.dropWhile isSymbol = rest := by
    cases rest with
    | nil => exact ⟨rfl,rfl⟩
    | cons c rest =>
      have other : isSymbol c = false := by simpa [endsHere] using ends
      simp [other]
  cases name with
  | nil => exact absurd rfl nonempty
  | cons c tail =>
    simp only [identifier?,List.takeWhile_append_of_pos symbols,
      List.dropWhile_append_of_pos symbols,stop,List.append_nil]

theorem identifier?_append {name rest : List Char} (identifier : isIdentifier name)
    (ends : endsHere rest) : identifier? (name ++ rest) = some (name,rest) := by
  have symbols : ∀ c ∈ name, isSymbol c := fun c member =>
    isSymbol_of_part (Text.parts_of_identifier identifier c member)
  refine identifier?_of_symbols ?_ symbols ends
  rintro rfl
  cases identifier

theorem identifier?_other {c : Char} (other : isSymbol c = false) (rest : List Char) :
    identifier? (c :: rest) = none := by
  simp [identifier?,other]

def endsPath : List Char → Bool
  | [] => true
  | c :: _ => !isSymbol c && c ≠ '.' && c ≠ '/'

theorem endsHere_of_endsPath {s : List Char} (ends : endsPath s) : endsHere s := by
  cases s with
  | nil => rfl
  | cons c rest =>
    simp only [endsPath,Bool.and_eq_true] at ends
    exact ends.1.1

theorem separator?_of_endsPath {s : List Char} (ends : endsPath s) : separator? s = none := by
  unfold separator?
  split
  · simp [endsPath] at ends
  · simp [endsPath] at ends
  · rfl

theorem endsHere_afterPoints (names : List (List Char)) {rest : List Char} (ends : endsPath rest) :
    endsHere (afterPoints names ++ rest) := by
  cases names with
  | nil => exact endsHere_of_endsPath ends
  | cons name names =>
    rw [Text.afterPoints_cons]
    rfl

theorem step?_append {name rest : List Char} (identifier : isIdentifier name)
    (ends : endsHere rest) : step? (name ++ rest) = some (name,rest) := by
  have read := identifier?_append identifier ends
  obtain ⟨c,tail,rfl,starts,-⟩ := Text.exists_of_identifier identifier
  have apart : c ≠ '[' := Text.ne_of_starts starts rfl
  rw [← read,step?]
  rintro r same
  exact apart (List.cons.inj same).1

/-- Names after points are further steps, and nothing else is. -/
theorem moreSteps_append {names : List (List Char)} (identifiers : ∀ n ∈ names, isIdentifier n)
    {rest : List Char} (ends : endsPath rest) :
    moreSteps (afterPoints names ++ rest) = (names,rest) := by
  induction names with
  | nil =>
    rw [Text.afterPoints_nil,List.nil_append,moreSteps]
    split
    · rfl
    · rename_i found
      simp [separator?_of_endsPath ends] at found
  | cons name names ih =>
    obtain ⟨identifier,others⟩ := List.forall_mem_cons.mp identifiers
    have here := step?_append identifier (endsHere_afterPoints names ends)
    have separated : separator? (afterPoints (name :: names) ++ rest) =
        some (name ++ (afterPoints names ++ rest)) := by
      simp [separator?]
    rw [moreSteps]
    split
    next missing => cases missing.symm.trans separated
    next next found =>
      cases found.symm.trans separated
      split
      next missing => cases missing.symm.trans here
      next name' rest' found =>
        cases found.symm.trans here
        rw [ih others]

def pathOf (first : List Char) (names : List (List Char)) : Path where
  written := String.ofList (first ++ afterPoints names)
  start := .block 0
  steps := (first :: names).map String.ofList

theorem pathOf_single (name : String) : pathOf name.toList [] = ⟨name,.block 0,[name]⟩ := by
  simp [pathOf]

theorem after?_none_of_starts {c w : Char} (starts : startsIdentifier c)
    (other : startsIdentifier w = false) (word s : List Char) :
    Text.after? (w :: word) (c :: s) = none := by
  rw [Text.after?_cons,if_neg (Text.ne_of_starts starts other).symm]

theorem afterHere_append {name rest : List Char} (identifier : isIdentifier name)
    (plain : name ≠ ['t','h','i','s']) (ends : endsHere rest) :
    afterHere (name ++ rest) = name ++ rest := by
  have none : (Text.after? ['t','h','i','s'] (name ++ rest)).bind separator? = none := by
    cases found : Text.after? ['t','h','i','s'] (name ++ rest) with
    | none => rfl
    | some after =>
      obtain ⟨c,more,rfl,part⟩ := Text.part_after_word (by decide) identifier plain
        (endsIdentifier_of_endsHere ends) found
      have point : c ≠ '.' := Text.ne_of_part part rfl
      have slash : c ≠ '/' := Text.ne_of_part part rfl
      simp [separator?,point,slash]
  obtain ⟨c,tail,rfl,starts,-⟩ := Text.exists_of_identifier identifier
  have point : c ≠ '.' := Text.ne_of_starts starts rfl
  unfold afterHere
  split
  next same => exact absurd (List.cons.inj same).1 point
  next =>
    rw [none]
    rfl

theorem path?_append {first : List Char} {names : List (List Char)}
    (identifiers : ∀ n ∈ first :: names, isIdentifier n ∧ n ≠ ['t','h','i','s'])
    {rest : List Char} (ends : endsPath rest) :
    path? (first ++ afterPoints names ++ rest) = some (pathOf first names,rest) := by
  obtain ⟨⟨identifier,plain⟩,others⟩ := List.forall_mem_cons.mp identifiers
  have stops := endsHere_afterPoints names ends
  have here := afterHere_append identifier plain stops
  have step := step?_append identifier stops
  have more := moreSteps_append (fun n member => (others n member).1) ends
  have real : realSteps (first :: names) = (first :: names).map String.ofList := by
    refine List.filter_eq_self.mpr fun step member => ?_
    obtain ⟨n,among,rfl⟩ := List.mem_map.mp member
    have apart : String.ofList n ≠ "this" := fun same =>
      (identifiers n among).2 (String.ofList_injective same)
    simpa using apart
  have read : consumed (first ++ (afterPoints names ++ rest)) rest =
      first ++ afterPoints names := by
    rw [consumed,← List.append_assoc,List.length_append,Nat.add_sub_cancel,List.take_left']
    rfl
  obtain ⟨c,tail,rfl,starts,-⟩ := Text.exists_of_identifier identifier
  have point : c ≠ '.' := Text.ne_of_starts starts rfl
  have root : afterRoot? (c :: tail ++ (afterPoints names ++ rest)) = none := by
    rw [afterRoot?,List.cons_append,after?_none_of_starts starts rfl]
    rfl
  have mark : afterMark? (c :: tail ++ (afterPoints names ++ rest)) = none := by
    simp [afterMark?,Text.ne_of_starts starts (d := '@') rfl]
  have inward : outward (c :: tail ++ (afterPoints names ++ rest)) =
      (0,c :: tail ++ (afterPoints names ++ rest)) := by
    simp [outward,point]
  rw [List.append_assoc,path?,here]
  simp only [root,mark,inward,Option.getD_none,Option.isSome_none]
  simp only [step,more,real,read,startOf,pathOf]
  rfl

theorem path?_single {name rest : List Char} (identifier : isIdentifier name)
    (plain : name ≠ ['t','h','i','s']) (ends : endsPath rest) :
    path? (name ++ rest) = some (pathOf name [],rest) := by
  have one : ∀ n ∈ [name], isIdentifier n ∧ n ≠ ['t','h','i','s'] :=
    List.forall_mem_singleton.mpr ⟨identifier,plain⟩
  simpa using path?_append one ends

theorem isDigit_of_other {c : Char} (other : isSymbol c = false) : c.isDigit = false := by
  refine Bool.eq_false_iff.mpr fun digit => ?_
  simp [isSymbol,Char.isAlphanum,digit] at other

theorem stringLiteral?_other {c : Char} (double : c ≠ '"') (single : c ≠ '\'') (rest : List Char) :
    stringLiteral? (c :: rest) = none := by
  simp [stringLiteral?,double,single]

/-- What is neither a quote, a bracket, a brace nor a number opens no literal but a word. -/
theorem afterLiteral?_other {c : Char} (starts : c ∉ ['"','\'','[','{','-'])
    (digit : c.isDigit = false) {rest : List Char}
    (words : ∀ word ∈ [['n','u','l','l'],['t','r','u','e'],['f','a','l','s','e']],
      wordLiteral? word (c :: rest) = none) (fuel : Nat) :
    afterLiteral? fuel (c :: rest) = none := by
  simp only [List.mem_cons,List.not_mem_nil,or_false,not_or] at starts
  obtain ⟨double,single,bracket,brace,minus⟩ := starts
  simp only [List.forall_mem_cons,List.not_mem_nil,false_imp_iff,implies_true,and_true] at words
  have number : numberLiteral? (c :: rest) = none := by
    have unsigned : afterMinus (c :: rest) = c :: rest := by
      rw [afterMinus,Text.after?_cons,if_neg (Ne.symm minus)]
      rfl
    simp [numberLiteral?,unsigned,afterDigits?,digit]
  cases fuel with
  | zero => rfl
  | succ fuel =>
    simp [afterLiteral?,stringLiteral?_other double single,bracket,brace,number,words]

/-- The words that are no paths where an argument stands. -/
def termWords : List (List Char) :=
  [['a','s'],['e','l','s','e'],['n','u','l','l'],['t','r','u','e'],['f','a','l','s','e'],
    ['t','h','i','s']]

theorem wordLiteral?_append {word name rest : List Char} (parts : word.all isIdentifierPart)
    (identifier : isIdentifier name) (apart : name ≠ word) (ends : endsHere rest) :
    wordLiteral? word (name ++ rest) = none := by
  cases found : Text.after? word (name ++ rest) with
  | none => simp [wordLiteral?,found]
  | some after =>
    obtain ⟨c,more,rfl,part⟩ := Text.part_after_word parts identifier apart
      (endsIdentifier_of_endsHere ends) found
    simp [wordLiteral?,found,endsHere,isSymbol_of_part part]

theorem isReserved_append {name rest : List Char} (identifier : isIdentifier name)
    (plain : name ∉ termWords) (ends : endsHere rest) : isReserved (name ++ rest) = false := by
  have goesOn (word : List Char) (parts : word.all isIdentifierPart) (apart : name ≠ word) :
      ((Text.after? word (name ++ rest)).map fun after => endsHere (Text.skipSpace after)).getD
        false = false := by
    cases found : Text.after? word (name ++ rest) with
    | none => rfl
    | some after =>
      obtain ⟨c,more,rfl,part⟩ := Text.part_after_word parts identifier apart
        (endsIdentifier_of_endsHere ends) found
      simp [Text.skipSpace_of_not_space (Text.isSpace_of_part part),endsHere,isSymbol_of_part part]
  simp only [termWords,List.mem_cons,not_or] at plain
  exact Bool.or_eq_false_iff.mpr ⟨goesOn _ (by decide) plain.1,goesOn _ (by decide) plain.2.1⟩

/-- Any other name is the path of one step. -/
theorem term?_append {name rest : List Char} (identifier : isIdentifier name)
    (plain : name ∉ termWords) (ends : endsPath rest) (fuel : Nat) :
    term? (fuel + 1) (name ++ rest) = some (.path (pathOf name []),rest) := by
  have stops := endsHere_of_endsPath ends
  have free := isReserved_append identifier plain stops
  simp only [termWords,List.mem_cons,List.not_mem_nil,or_false,not_or] at plain
  obtain ⟨-,-,null,true',false',this⟩ := plain
  have path := path?_single identifier this ends
  have literal : stringLiteral? (name ++ rest) = none ∧
      afterLiteral? (name ++ rest).length (name ++ rest) = none := by
    have words : ∀ word ∈ [['n','u','l','l'],['t','r','u','e'],['f','a','l','s','e']],
        wordLiteral? word (name ++ rest) = none := by
      simp only [List.forall_mem_cons]
      exact ⟨wordLiteral?_append (by decide) identifier null stops,
        wordLiteral?_append (by decide) identifier true' stops,
        wordLiteral?_append (by decide) identifier false' stops,List.forall_mem_nil _⟩
    obtain ⟨c,tail,rfl,starts,-⟩ := Text.exists_of_identifier identifier
    have apart (d : Char) (other : startsIdentifier d = false) : c ≠ d :=
      Text.ne_of_starts starts other
    refine ⟨stringLiteral?_other (apart _ rfl) (apart _ rfl) _,
      afterLiteral?_other ?_ (Text.isDigit_of_starts starts) words _⟩
    simp only [List.mem_cons,List.not_mem_nil,or_false,not_or]
    exact ⟨apart _ rfl,apart _ rfl,apart _ rfl,apart _ rfl,apart _ rfl⟩
  simp only [term?,free,literal,path]
  rfl

theorem argument?_placed {name rest : List Char} (identifier : isIdentifier name)
    (plain : name ∉ termWords) (ends : endsPath rest)
    (alone : Text.after? ['='] (Text.skipSpace rest) = none) (fuel : Nat) :
    argument? (fuel + 2) (name ++ rest) = some (.placed (.path (pathOf name [])),rest) := by
  simp [argument?,named?,identifier?_append identifier (endsHere_of_endsPath ends),alone,
    term?_append identifier plain ends]

theorem argument?_named {key name rest : List Char} (key_identifier : isIdentifier key)
    (identifier : isIdentifier name) (plain : name ∉ termWords) (ends : endsPath rest) (fuel : Nat) :
    argument? (fuel + 3) (key ++ '=' :: (name ++ rest)) =
      some (.named (String.ofList key) (.path (pathOf name [])),rest) := by
  have first := identifier?_append key_identifier (show endsHere ('=' :: (name ++ rest)) from rfl)
  have equals : Text.skipSpace ('=' :: (name ++ rest)) = '=' :: (name ++ rest) :=
    Text.skipSpace_of_not_space rfl _
  have value : Text.after? ['='] ('=' :: (name ++ rest)) = some (name ++ rest) :=
    Text.after?_append ['='] (name ++ rest)
  simp [argument?,named?,first,equals,value,Text.skipSpace_identifier identifier,
    term?_append identifier plain ends]

/-- No argument begins with a character that begins no term. -/
theorem argument?_other {c : Char} (symbol : isSymbol c = false)
    (other : c ∉ ['"','\'','[','{','(']) {rest : List Char} (path : path? (c :: rest) = none)
    (fuel : Nat) : argument? fuel (c :: rest) = none := by
  have word (w : Char) (part : isIdentifierPart w) (word : List Char) :
      Text.after? (w :: word) (c :: rest) = none := by
    rw [Text.after?_cons,if_neg]
    rintro rfl
    simp [isSymbol_of_part part] at symbol
  have free : isReserved (c :: rest) = false := by
    simp [isReserved,word 'a' rfl,word 'e' rfl]
  simp only [List.mem_cons,List.not_mem_nil,or_false,not_or] at other
  obtain ⟨double,single,bracket,brace,paren⟩ := other
  have minus : c ≠ '-' := by
    rintro rfl
    exact absurd symbol (by decide)
  have literal : afterLiteral? (c :: rest).length (c :: rest) = none := by
    refine afterLiteral?_other ?_ (isDigit_of_other symbol) ?_ _
    · simp only [List.mem_cons,List.not_mem_nil,or_false,not_or]
      exact ⟨double,single,bracket,brace,minus⟩
    · simp [wordLiteral?,word 'n' rfl,word 't' rfl,word 'f' rfl]
  have subterm (fuel : Nat) : subterm? fuel (c :: rest) = none := by
    cases fuel with
    | zero => rfl
    | succ fuel => simp [subterm?,Text.after?_cons,Ne.symm paren]
  have term (fuel : Nat) : term? fuel (c :: rest) = none := by
    cases fuel with
    | zero => rfl
    | succ fuel =>
      simp only [term?,free,stringLiteral?_other double single,literal,path,subterm]
      rfl
  have named (fuel : Nat) : named? fuel (c :: rest) = none := by
    cases fuel with
    | zero => rfl
    | succ fuel => simp [named?,identifier?_other symbol]
  cases fuel with
  | zero => rfl
  | succ fuel => simp [argument?,named,term]

theorem arguments_none {s : List Char} (none : ∀ fuel, argument? fuel (Text.skipSpace s) = none)
    (fuel : Nat) : arguments fuel s = ([],s) := by
  cases fuel with
  | zero => rfl
  | succ fuel => simp [arguments,none]

theorem arguments_some {s rest : List Char} {a : Argument} {fuel : Nat}
    (read : argument? fuel (Text.skipSpace s) = some (a,rest)) :
    arguments (fuel + 1) s = (a :: (arguments fuel rest).1,(arguments fuel rest).2) := by
  simp [arguments,read]

theorem arguments_close (rest : List Char) (fuel : Nat) :
    arguments fuel ('}' :: rest) = ([],'}' :: rest) := by
  refine arguments_none (fun fuel => ?_) fuel
  rw [Text.skipSpace_of_not_space rfl]
  refine argument?_other rfl (by decide) ?_ fuel
  have here : afterHere ('}' :: rest) = '}' :: rest := by
    simp [afterHere,Text.after?_cons]
  have root : afterRoot? ('}' :: rest) = none := by
    simp [afterRoot?,Text.after?_cons]
  simp [path?,here,root,afterMark?,outward,step?,identifier?_other (show isSymbol '}' = false from rfl)]

theorem arguments_point {name : List Char} (identifier : isIdentifier name) (rest : List Char)
    (fuel : Nat) : arguments fuel ('.' :: (name ++ rest)) = ([],'.' :: (name ++ rest)) := by
  refine arguments_none (fun fuel => ?_) fuel
  rw [Text.skipSpace_of_not_space rfl]
  refine argument?_other rfl (by decide) ?_ fuel
  obtain ⟨c,tail,rfl,starts,-⟩ := Text.exists_of_identifier identifier
  have slash : c ≠ '/' := Text.ne_of_starts starts rfl
  have point : c ≠ '.' := Text.ne_of_starts starts rfl
  have here : afterHere ('.' :: c :: (tail ++ rest)) = '.' :: c :: (tail ++ rest) := by
    simp [afterHere,Text.after?_cons,slash]
  have root : afterRoot? ('.' :: c :: (tail ++ rest)) = none := by
    simp [afterRoot?,Text.after?_cons]
  simp [path?,here,root,afterMark?,outward,point,step?,
    identifier?_other (show isSymbol '.' = false from rfl)]

theorem tilde_other {c : Char} (space : Text.isSpace c = false) (apart : c ≠ '~') (rest : List Char) :
    tilde (c :: rest) = (false,c :: rest) := by
  simp [tilde,Text.skipSpace_of_not_space space,apart]

theorem ended_close (tag : Tag) (before : Bool) (rest : List Char) :
    ended tag before ['}','}'] ('}' :: '}' :: rest) = some ⟨tag,before,false,rest⟩ := by
  have space (rest : List Char) : Text.skipSpace ('}' :: rest) = '}' :: rest :=
    Text.skipSpace_of_not_space rfl rest
  have braces := Text.after?_append ['}','}'] rest
  rw [List.cons_append,List.singleton_append] at braces
  simp [ended,close?,tilde_other (show Text.isSpace '}' = false from rfl),space,braces]

theorem ended_other {c : Char} (space : Text.isSpace c = false) (tilde : c ≠ '~') (brace : c ≠ '}')
    (tag : Tag) (before : Bool) (rest : List Char) :
    ended tag before ['}','}'] (c :: rest) = none := by
  simp [ended,close?,tilde_other space tilde,Text.skipSpace_of_not_space space,Text.after?_cons,
    Ne.symm brace]

theorem content?_call {name args rest : List Char} (identifier : isIdentifier name)
    (ends : endsHere args) {a : Argument} {more : List Argument}
    (read : ∀ fuel, 5 * args.length ≤ fuel → arguments fuel args = (a :: more,rest)) :
    content? (name ++ args) =
      some (.call (.ofArguments (String.ofList name) (a :: more)),rest) := by
  have deep : arguments (5 * (name ++ args).length + 4) args = (a :: more,rest) := by
    refine read _ ?_
    simp only [List.length_append]
    omega
  have calls : calling? (depthOf (name ++ args)) (name ++ args) =
      some (.ofArguments (String.ofList name) (a :: more),rest) := by
    rw [depthOf,calling?,identifier?_append identifier ends]
    simp only [Option.bind_eq_bind,Option.bind_some,deep]
    rfl
  simp only [content?,calls,Option.map_some,Option.some_or]

theorem content?_path {first : List Char} {names : List (List Char)}
    (identifiers : ∀ n ∈ first :: names, isIdentifier n ∧ n ≠ ['t','h','i','s']) (rest : List Char) :
    content? (first ++ afterPoints names ++ '}' :: rest) =
      some (.value (.path (pathOf first names)),'}' :: rest) := by
  obtain ⟨⟨identifier,-⟩,others⟩ := List.forall_mem_cons.mp identifiers
  have close : endsPath ('}' :: rest) := rfl
  have path := path?_append identifiers close
  have alone (fuel : Nat) : arguments fuel (afterPoints names ++ '}' :: rest) =
      ([],afterPoints names ++ '}' :: rest) := by
    cases names with
    | nil => exact arguments_close rest fuel
    | cons name names =>
      have next := (others name List.mem_cons_self).1
      simpa using arguments_point next (afterPoints names ++ '}' :: rest) fuel
  have calling (fuel : Nat) : calling? fuel (first ++ afterPoints names ++ '}' :: rest) = none := by
    cases fuel with
    | zero => rfl
    | succ fuel =>
      have name := identifier?_append identifier (endsHere_afterPoints names close)
      rw [List.append_assoc]
      simp [calling?,name,alone]
  have subterm (fuel : Nat) : subterm? fuel (first ++ afterPoints names ++ '}' :: rest) = none := by
    obtain ⟨c,tail,rfl,starts,-⟩ := Text.exists_of_identifier identifier
    cases fuel with
    | zero => rfl
    | succ fuel => simp [subterm?,after?_none_of_starts starts (w := '(') rfl]
  simp only [content?,calling,name?,subterm,path]
  rfl

/-- What begins with a name prints its content, unless it opens the other branch of a block. -/
theorem tag?_printing {name s rest : List Char} (identifier : isIdentifier name)
    (plain : (afterElse? (name ++ s)).bind (otherwise? false) = none) {tag : Tag}
    (read : content? (name ++ s) = some (tag,'}' :: '}' :: rest)) :
    tag? (name ++ s) = some ⟨tag,false,false,rest⟩ := by
  have blanks := Text.skipSpace_identifier identifier s
  have prints : printing? false ['}','}'] (name ++ s) = some ⟨tag,false,false,rest⟩ := by
    simp [printing?,blanks,read,ended_close]
  obtain ⟨c,tail,rfl,starts,-⟩ := Text.exists_of_identifier identifier
  have apart (d : Char) (other : startsIdentifier d = false) : c ≠ d := Text.ne_of_starts starts other
  have space : Text.isSpace c = false := Text.isSpace_of_part (Text.isIdentifierPart_of_starts starts)
  rw [List.cons_append] at *
  simp [tag?,inner?,tilde_other space (apart '~' rfl),blanks,plain,prints,apart '!' rfl,
    apart '{' rfl,apart '#' rfl,apart '/' rfl,apart '^' rfl,apart '&' rfl,apart '*' rfl,
    apart '>' rfl]

theorem afterElse?_append {name rest : List Char} (plain : ¬ ['e','l','s','e'] <+: name)
    (ends : endsHere rest) : afterElse? (name ++ rest) = none := by
  rw [afterElse?,Text.after?_identifier (by decide) name (endsIdentifier_of_endsHere ends),
    Text.after?_eq_none_iff.mpr plain]
  rfl

/-- No block is named by a path of several names. -/
theorem otherwise?_points {more name : List Char} (parts : ∀ c ∈ more, isIdentifierPart c)
    (identifier : isIdentifier name) (before : Bool) (rest : List Char) :
    otherwise? before (more ++ '.' :: (name ++ rest)) = none := by
  have point (tag : Tag) : ended tag before ['}','}'] ('.' :: (name ++ rest)) = none :=
    ended_other rfl (by decide) (by decide) tag before _
  cases more with
  | nil =>
    have blanks : Text.skipSpace ('.' :: (name ++ rest)) = '.' :: (name ++ rest) :=
      Text.skipSpace_of_not_space rfl _
    simp [otherwise?,point,blanks,opening?,identifier?_other (show isSymbol '.' = false from rfl)]
  | cons c tail =>
    have part := (List.forall_mem_cons.mp parts).1
    have space := Text.isSpace_of_part part
    have first := ended_other space (Text.ne_of_part part rfl) (Text.ne_of_part part rfl)
      (.otherwise none) before (tail ++ '.' :: (name ++ rest))
    have blanks := Text.skipSpace_of_not_space space (tail ++ '.' :: (name ++ rest))
    have word := identifier?_of_symbols (List.cons_ne_nil c tail)
      (fun d member => isSymbol_of_part (parts d member))
      (show endsHere ('.' :: (name ++ rest)) from rfl)
    rw [List.cons_append] at word
    have unbound : binders? ('.' :: (name ++ rest)) = none := by
      simp [binders?,Text.skipSpace_of_not_space (show Text.isSpace '.' = false from rfl),
        Text.after?_cons]
    simp [otherwise?,first,blanks,opening?,word,arguments_point identifier,unbound,point]

/-- A path of names between braces prints what it leads to. -/
theorem tag?_path {first : List Char} {names : List (List Char)}
    (identifiers : ∀ n ∈ first :: names, isIdentifier n ∧ n ≠ ['t','h','i','s'])
    (plain : names = [] → ¬ ['e','l','s','e'] <+: first) (rest : List Char) :
    tag? (first ++ afterPoints names ++ '}' :: '}' :: rest) =
      some ⟨.value (.path (pathOf first names)),false,false,rest⟩ := by
  have identifier := (identifiers first List.mem_cons_self).1
  have read := content?_path identifiers ('}' :: rest)
  rw [List.append_assoc] at *
  refine tag?_printing identifier ?_ read
  cases names with
  | nil =>
    have close : endsHere (afterPoints [] ++ '}' :: '}' :: rest) := rfl
    rw [afterElse?_append (plain rfl) close]
    rfl
  | cons name names =>
    have next := (identifiers name (by simp)).1
    rw [afterElse?,Text.after?_identifier (by decide) first rfl]
    cases found : Text.after? ['e','l','s','e'] first with
    | none => rfl
    | some more =>
      have spelled := Text.after?_eq_some_iff.mp found
      have parts : ∀ c ∈ more, isIdentifierPart c := fun c member =>
        Text.parts_of_identifier identifier c (by simp [← spelled,member])
      simpa using otherwise?_points parts next false (afterPoints names ++ '}' :: '}' :: rest)

/-- A name and arguments between braces print what the helper of the name makes of them. -/
theorem tag?_call {name args rest : List Char} (identifier : isIdentifier name)
    (plain : ¬ ['e','l','s','e'] <+: name) (ends : endsHere args) {a : Argument}
    {more : List Argument}
    (read : ∀ fuel, 5 * args.length ≤ fuel → arguments fuel args = (a :: more,'}' :: '}' :: rest)) :
    tag? (name ++ args) =
      some ⟨.call (.ofArguments (String.ofList name) (a :: more)),false,false,rest⟩ := by
  refine tag?_printing identifier ?_ (content?_call identifier ends read)
  rw [afterElse?_append plain ends]
  rfl

theorem piecesFrom_nil (fuel : Nat) (place : Position) : piecesFrom fuel place [] = some [] := by
  cases fuel <;> rfl

theorem pieces?_tag {name s : List Char} (identifier : isIdentifier name) {r : Reading}
    (read : tag? (name ++ s) = some r) (whole : r.rest = []) :
    pieces? ('{' :: '{' :: (name ++ s)) = some [r.piece .first] := by
  obtain ⟨c,tail,rfl,starts,-⟩ := Text.exists_of_identifier identifier
  have brace : '{' ≠ c := (Text.ne_of_starts starts rfl).symm
  rw [List.cons_append] at *
  have raw : Text.after? ['{','{','{','{'] ('{' :: '{' :: c :: (tail ++ s)) = none := by
    simp [Text.after?_cons,brace]
  have opens : Text.after? ['{','{'] ('{' :: '{' :: c :: (tail ++ s)) = some (c :: (tail ++ s)) :=
    Text.after?_append ['{','{'] _
  simp only [pieces?,List.length_cons,piecesFrom,raw,opens]
  simp [read,whole,piecesFrom_nil]

theorem compile?_value {name s : List Char} (identifier : isIdentifier name) {t : Term}
    (read : tag? (name ++ s) = some ⟨.value t,false,false,[]⟩) :
    compile? (String.ofList ('{' :: '{' :: (name ++ s))) = some [.value ⟨1,1⟩ t] := by
  simp [compile?,pieces?_tag identifier read rfl,Reading.piece,items,nest,Position.first]

theorem compile?_call {name s : List Char} (identifier : isIdentifier name) {c : Call}
    (read : tag? (name ++ s) = some ⟨.call c,false,false,[]⟩) :
    compile? (String.ofList ('{' :: '{' :: (name ++ s))) = some [.call ⟨1,1⟩ c] := by
  simp [compile?,pieces?_tag identifier read rfl,Reading.piece,items,nest,Position.first]

/-- Text without a mark stays as it is, with all its backslashes. -/
theorem splitText_text {s : List Char} (unmarked : ¬ ['{','{'] <:+: s) :
    splitText ['{','{'] 0 false s = (s,[]) := by
  induction s with
  | nil => rfl
  | cons c rest ih =>
    have later : ¬ ['{','{'] <:+: rest := fun found =>
      unmarked (found.trans (List.suffix_cons c rest).isInfix)
    have here : ['{','{'].isPrefixOf (c :: rest) = false := by
      refine Bool.eq_false_iff.mpr fun opens => unmarked ?_
      exact (List.isPrefixOf_iff_prefix.mp opens).isInfix
    have after (mark : List Char) : ('{' :: '{' :: mark).isPrefixOf rest = false := by
      refine Bool.eq_false_iff.mpr fun opens => later ?_
      have whole := (List.prefix_append ['{','{'] mark).trans (List.isPrefixOf_iff_prefix.mp opens)
      exact whole.isInfix
    have unguarded : guardsTag rest = false := by
      refine Bool.eq_false_iff.mpr fun guards => later ?_
      exact (List.isPrefixOf_iff_prefix.mp guards).isInfix.trans (List.dropWhile_suffix _).isInfix
    simp [splitText,here,after,unguarded,ih later]

def textNodes (s : List Char) : Template := if s = [] then [] else [.text (String.ofList s)]

/-- Text without a mark is all that its template has. -/
theorem compile?_text {s : List Char} (unmarked : ¬ ['{','{'] <:+: s) :
    compile? (String.ofList s) = some (textNodes s) := by
  cases s with
  | nil => rfl
  | cons c rest =>
    have opens : Text.after? ['{','{'] (c :: rest) = none :=
      Text.after?_eq_none_iff.mpr fun found => unmarked found.isInfix
    have raw : Text.after? ['{','{','{','{'] (c :: rest) = none := by
      refine Text.after?_eq_none_iff.mpr fun found => unmarked ?_
      exact ((List.prefix_append ['{','{'] ['{','{']).trans found).isInfix
    have pieces : pieces? (c :: rest) = some [.text (c :: rest)] := by
      simp only [pieces?,List.length_cons,piecesFrom,raw,opens,splitText_text unmarked]
      rfl
    simp [compile?,pieces,items,closeText,openText,Margin.first,nest,textNodes]

end Placard.Handlebars
