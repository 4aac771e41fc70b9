import Placard.Liquid.Template
import Placard.Proofs.Text.Identifier

/-! How outputs are read: a variable with names for its steps, and the filters it goes through; and how
a tag with one argument is. Whatever stands after is left as it is. -/
namespace Placard.Liquid
open Text (isIdentifier isIdentifierPart startsIdentifier endsIdentifier afterPoints)

/-- No name goes on here, nor is a dash before it one that closes an element. -/
def endsName : List Char → Bool
  | [] => true
  | c :: _ => !isIdentifierPart c && c ≠ '}' && c ≠ '%'

theorem endsIdentifier_of_endsName {s : List Char} (ends : endsName s) : endsIdentifier s := by
  cases s with
  | nil => rfl
  | cons c rest =>
    simp only [endsName,Bool.and_eq_true] at ends
    exact ends.1.1

theorem isNameDash_append {name rest : List Char} (parts : ∀ c ∈ name, isIdentifierPart c)
    (ends : endsName rest) : isNameDash (name ++ rest) := by
  have goesOn {c : Char} (brace : c ≠ '}') (percent : c ≠ '%') (s : List Char) :
      isNameDash (c :: s) := by
    simp [isNameDash,List.isPrefixOf,Ne.symm brace,Ne.symm percent]
  cases name with
  | cons c name =>
    have part := parts c List.mem_cons_self
    exact goesOn (Text.ne_of_part part rfl) (Text.ne_of_part part rfl) _
  | nil =>
    cases rest with
    | nil => rfl
    | cons c rest =>
      simp only [endsName,Bool.and_eq_true,decide_eq_true_eq] at ends
      exact goesOn ends.1.2 ends.2 _

theorem nameTail_append {name rest : List Char} (parts : ∀ c ∈ name, isIdentifierPart c)
    (ends : endsName rest) : nameTail (name ++ rest) = (name,rest) := by
  induction name with
  | nil =>
    cases rest with
    | nil => rfl
    | cons c rest =>
      simp only [endsName,isIdentifierPart,Bool.and_eq_true,Bool.not_eq_true',Bool.or_eq_false_iff]
        at ends
      obtain ⟨⟨⟨⟨letter,underscore⟩,dash⟩,-⟩,-⟩ := ends
      simp [nameTail,isNameChar,letter,underscore,dash]
  | cons c name ih =>
    obtain ⟨part,parts⟩ := List.forall_mem_cons.mp parts
    have goes : (isNameChar c || (c = '-' && isNameDash (name ++ rest))) = true := by
      rw [isNameDash_append parts ends,Bool.and_true]
      exact part
    rw [List.cons_append,nameTail,if_pos goes,ih parts]

theorem name?_append {name rest : List Char} (identifier : isIdentifier name)
    (ends : endsName rest) : name? (name ++ rest) = some (name,rest) := by
  obtain ⟨c,tail,rfl,starts,parts⟩ := Text.exists_of_identifier identifier
  have starts : (c.isAlpha || c = '_' || (c = '-' && isNameDash (tail ++ rest))) = true := by
    rw [Bool.or_eq_true]
    exact .inl starts
  rw [List.cons_append,name?,if_pos starts,nameTail_append parts ends]

theorem skipBlanks_identifier {name : List Char} (identifier : isIdentifier name) (s : List Char) :
    skipBlanks (name ++ s) = name ++ s := by
  obtain ⟨c,tail,rfl,starts,-⟩ := Text.exists_of_identifier identifier
  have blank : isBlank c = false := by
    simp only [isBlank,Bool.or_eq_false_iff,decide_eq_false_iff_not]
    exact ⟨⟨Text.ne_of_starts starts rfl,Text.ne_of_starts starts rfl⟩,Text.ne_of_starts starts rfl⟩
  simp [skipBlanks,blank]

theorem skipBlanks_space {s : List Char} (plain : skipBlanks s = s) : skipBlanks (' ' :: s) = s := by
  simpa [skipBlanks,isBlank] using plain

theorem skipBlanks_other {c : Char} (other : isBlank c = false) (rest : List Char) :
    skipBlanks (c :: rest) = c :: rest := by
  simp [skipBlanks,other]

theorem skipBlanks_brace (s : List Char) : skipBlanks ('{' :: s) = '{' :: s := skipBlanks_other rfl s

def isVariable (name : List Char) : Bool := wordLiterals.all fun w => !w.1.isPrefixOf name

def endsSteps : List Char → Bool
  | [] => true
  | c :: rest => endsName (c :: rest) && c ≠ '.' && c ≠ '['

theorem endsName_of_endsSteps {s : List Char} (ends : endsSteps s) : endsName s := by
  cases s with
  | nil => rfl
  | cons c rest =>
    simp only [endsSteps,Bool.and_eq_true] at ends
    exact ends.1.1

theorem endsName_afterPoints (names : List (List Char)) {rest : List Char} (ends : endsSteps rest) :
    endsName (afterPoints names ++ rest) := by
  cases names with
  | nil => exact endsName_of_endsSteps ends
  | cons name names =>
    rw [Text.afterPoints_cons]
    rfl

/-- A literal before a name that ends is one before the name alone. -/
theorem wordLiteral?_ends (name : List Char) {rest : List Char} (ends : endsIdentifier rest) :
    wordLiteral? (name ++ rest) = (wordLiteral? name).map fun r => (r.1,r.2 ++ rest) := by
  have parts : ∀ w ∈ wordLiterals, w.1.all isIdentifierPart := by decide
  unfold wordLiteral?
  revert parts
  generalize wordLiterals = words
  intro parts
  induction words with
  | nil => rfl
  | cons w words ih =>
    obtain ⟨part,parts⟩ := List.forall_mem_cons.mp parts
    rw [List.findSome?_cons,List.findSome?_cons,Text.after?_identifier part name ends,ih parts]
    cases Text.after? w.1 name <;> rfl

theorem wordLiteral?_eq_none_iff {name : List Char} : wordLiteral? name = none ↔ isVariable name := by
  simp [wordLiteral?,isVariable,Text.after?_eq_none_iff,← List.isPrefixOf_iff_prefix]

theorem wordLiteral?_suffix {name more : List Char} {v : Value}
    (found : wordLiteral? name = some (v,more)) : more <:+ name := by
  obtain ⟨w,-,here⟩ := List.exists_of_findSome?_eq_some found
  obtain ⟨rest,spelled,same⟩ := Option.map_eq_some_iff.mp here
  cases same
  exact ⟨w.1,Text.after?_eq_some_iff.mp spelled⟩

theorem wordLiteral?_append {name rest : List Char} (plain : isVariable name)
    (ends : endsIdentifier rest) : wordLiteral? (name ++ rest) = none := by
  rw [wordLiteral?_ends name ends,wordLiteral?_eq_none_iff.mpr plain,Option.map_none]

theorem literal?_append {name rest : List Char} (identifier : isIdentifier name)
    (plain : isVariable name) (ends : endsIdentifier rest) : literal? (name ++ rest) = none := by
  have word := wordLiteral?_append plain ends
  obtain ⟨c,tail,rfl,starts,-⟩ := Text.exists_of_identifier identifier
  have apart (d : Char) (other : startsIdentifier d = false) : c ≠ d := Text.ne_of_starts starts other
  have digit := Text.isDigit_of_starts starts
  have quoted : quotedLiteral? (c :: tail ++ rest) = none := by
    simp [quotedLiteral?,apart '"' rfl,apart '\'' rfl]
  have number : numberLiteral? (c :: tail ++ rest) = none := by
    have unsigned : Double.splitSign (c :: tail ++ rest) = (false,c :: tail ++ rest) := by
      simp [Double.splitSign,apart '-' rfl,apart '+' rfl]
    simp only [numberLiteral?,unsigned]
    simp [digit]
  simp only [literal?,word,quoted,number,Option.or_none]

def variableOf (first : List Char) (names : List (List Char)) : Expression :=
  .variable (String.ofList first) (names.map fun n => .literal (.str (String.ofList n)))

theorem variableOf_single (name : String) : variableOf name.toList [] = .variable name [] := by
  simp [variableOf]

/-- What is read of a path: a variable, or where it begins with a literal that alone, if nothing
else belongs to the path. -/
def readPath? (first : List Char) (names : List (List Char)) : Option Expression :=
  match wordLiteral? first with
  | none => some (variableOf first names)
  | some (v,more) => if more = [] ∧ names = [] then some (.literal v) else none

theorem step?_ends {s : List Char} (ends : endsSteps s) (fuel : Nat) : step? fuel s = none := by
  cases fuel with
  | zero => rfl
  | succ fuel =>
    cases s with
    | nil => rfl
    | cons c rest =>
      simp only [endsSteps,Bool.and_eq_true,decide_eq_true_eq] at ends
      simp [step?,ends.1.2,ends.2]

/-- Names after points are further steps, and nothing else is. -/
theorem steps_append {names : List (List Char)} (identifiers : ∀ n ∈ names, isIdentifier n)
    {rest : List Char} (ends : endsSteps rest) {fuel : Nat} (deep : names.length < fuel) :
    steps fuel (afterPoints names ++ rest) =
      (names.map fun n => .literal (.str (String.ofList n)),rest) := by
  induction names generalizing fuel with
  | nil =>
    cases fuel with
    | zero => rfl
    | succ fuel => simp [steps,step?_ends ends]
  | cons name' names ih =>
    obtain ⟨identifier,others⟩ := List.forall_mem_cons.mp identifiers
    have name := name?_append identifier (endsName_afterPoints names ends)
    match fuel,deep with
    | fuel + 2,deep =>
      have later := ih others (Nat.lt_of_succ_lt_succ deep)
      have here : step? (fuel + 1) ('.' :: (name' ++ (afterPoints names ++ rest))) =
          some (.literal (.str (String.ofList name')),afterPoints names ++ rest) := by
        simp [step?,name]
      rw [Text.afterPoints_cons,List.cons_append,List.append_assoc,steps]
      simp only [here,later,List.map_cons]

theorem expression?_append {first : List Char} {names : List (List Char)}
    (identifiers : ∀ n ∈ first :: names, isIdentifier n) (plain : isVariable first)
    {rest : List Char} (ends : endsSteps rest) :
    expression? (first ++ afterPoints names ++ rest) = some (variableOf first names,rest) := by
  obtain ⟨identifier,others⟩ := List.forall_mem_cons.mp identifiers
  have stops := endsName_afterPoints names ends
  have literal := literal?_append identifier plain (endsIdentifier_of_endsName stops)
  have name := name?_append identifier stops
  have deep : names.length < 3 * (first ++ (afterPoints names ++ rest)).length + 2 := by
    have few := Text.length_le_afterPoints names
    simp only [List.length_append]
    omega
  have steps := steps_append others ends deep
  rw [List.append_assoc,expression?,depthOf,value?]
  simp only [literal,name,Option.map_some,steps,variableOf]

theorem expression?_single {name rest : List Char} (identifier : isIdentifier name)
    (plain : isVariable name) (ends : endsSteps rest) :
    expression? (name ++ rest) = some (variableOf name [],rest) := by
  have one : ∀ n ∈ [name], isIdentifier n := List.forall_mem_singleton.mpr identifier
  simpa using expression?_append one plain ends

theorem filters_none {s : List Char} (none : Text.after? ['|'] (skipBlanks s) = none) (fuel : Nat) :
    filters fuel s = ([],s) := by
  cases fuel with
  | zero => rfl
  | succ fuel => simp [filters,none]

theorem filters_some {s t rest : List Char} {f : FilterCall}
    (bar : Text.after? ['|'] (skipBlanks s) = some t) (read : filter? (skipBlanks t) = some (f,rest))
    (fuel : Nat) :
    filters (fuel + 1) s = (f :: (filters fuel rest).1,(filters fuel rest).2) := by
  simp [filters,bar,read]

theorem argument?_named {key name rest : List Char} (key_identifier : isIdentifier key)
    (identifier : isIdentifier name) (plain : isVariable name) (ends : endsSteps rest) :
    argument? (key ++ ':' :: ' ' :: (name ++ rest)) =
      some (.named (String.ofList key) (variableOf name []),rest) := by
  have first := name?_append key_identifier (show endsName (':' :: ' ' :: (name ++ rest)) from rfl)
  have blanks := skipBlanks_other (show isBlank ':' = false from rfl) (' ' :: (name ++ rest))
  have colon : Text.after? [':'] (':' :: ' ' :: (name ++ rest)) = some (' ' :: (name ++ rest)) :=
    Text.after?_append [':'] _
  have value := expression?_single identifier plain ends
  simp [argument?,namedArgument?,first,blanks,colon,
    skipBlanks_space (skipBlanks_identifier identifier rest),value]

theorem filter?_named {filter key name rest : List Char} (filter_identifier : isIdentifier filter)
    (key_identifier : isIdentifier key) (identifier : isIdentifier name) (plain : isVariable name)
    (ends : endsSteps rest) (last : Text.after? [','] (skipBlanks rest) = none) :
    filter? (filter ++ ':' :: ' ' :: (key ++ ':' :: ' ' :: (name ++ rest))) =
      some (⟨String.ofList filter,[],[(String.ofList key,variableOf name [])]⟩,rest) := by
  have first := name?_append filter_identifier
    (show endsName (':' :: ' ' :: (key ++ ':' :: ' ' :: (name ++ rest))) from rfl)
  have blanks := skipBlanks_other (show isBlank ':' = false from rfl)
    (' ' :: (key ++ ':' :: ' ' :: (name ++ rest)))
  have colon : Text.after? [':'] (':' :: ' ' :: (key ++ ':' :: ' ' :: (name ++ rest))) =
      some (' ' :: (key ++ ':' :: ' ' :: (name ++ rest))) :=
    Text.after?_append [':'] _
  have value := argument?_named key_identifier identifier plain ends
  have more (fuel : Nat) : moreArguments fuel rest = ([],rest) := by
    cases fuel with
    | zero => rfl
    | succ fuel => simp [moreArguments,last]
  simp [filter?,first,blanks,colon,skipBlanks_space (skipBlanks_identifier key_identifier _),value,
    more,FilterCall.ofArguments]

theorem filter?_plain {filter rest : List Char} (identifier : isIdentifier filter)
    (ends : endsName rest) (last : Text.after? [':'] (skipBlanks rest) = none) :
    filter? (filter ++ rest) = some (⟨String.ofList filter,[],[]⟩,rest) := by
  simp [filter?,name?_append identifier ends,last,FilterCall.ofArguments]

/-- After its braces and a blank an output is a chain, and then it ends. -/
theorem output?_eq {name s : List Char} (identifier : isIdentifier name) :
    output? ('{' :: '{' :: ' ' :: (name ++ s)) =
      (chain? (name ++ s)).bind fun r =>
        (afterClosing? ['}','}'] (skipBlanks r.2)).map fun rest => (.output r.1,rest) := by
  have opening : afterOpening? ['{','{'] ('{' :: '{' :: ' ' :: (name ++ s)) =
      some (' ' :: (name ++ s)) := by
    simp [afterOpening?,skipBlanks_brace,Text.after?_cons]
  have blanks := skipBlanks_space (skipBlanks_identifier identifier s)
  cases read : chain? (name ++ s) <;>
    simp [output?,opening,blanks,read,Option.map_eq_bind]

theorem output?_chain {name s rest : List Char} (identifier : isIdentifier name) {c : Chain}
    (read : chain? (name ++ s) = some (c,' ' :: '}' :: '}' :: rest)) :
    output? ('{' :: '{' :: ' ' :: (name ++ s)) = some (.output c,rest) := by
  have close : skipBlanks (' ' :: '}' :: '}' :: rest) = '}' :: '}' :: rest :=
    skipBlanks_space (skipBlanks_other rfl _)
  have closing : afterClosing? ['}','}'] ('}' :: '}' :: rest) = some rest := by
    simp [afterClosing?,Text.after?_cons]
  simp [output?_eq identifier,read,close,closing]

theorem filters_close (rest : List Char) (fuel : Nat) :
    filters fuel (' ' :: '}' :: rest) = ([],' ' :: '}' :: rest) := by
  refine filters_none ?_ fuel
  rw [skipBlanks_space (skipBlanks_other rfl _),Text.after?_cons,if_neg (by decide)]

theorem output?_path {first : List Char} {names : List (List Char)}
    (identifiers : ∀ n ∈ first :: names, isIdentifier n) (plain : isVariable first)
    (rest : List Char) :
    output? ('{' :: '{' :: ' ' :: (first ++ afterPoints names ++ ' ' :: '}' :: '}' :: rest)) =
      some (.output ⟨variableOf first names,[]⟩,rest) := by
  have entry := expression?_append identifiers plain
    (show endsSteps (' ' :: '}' :: '}' :: rest) from rfl)
  rw [List.append_assoc] at *
  refine output?_chain (identifiers first List.mem_cons_self) ?_
  simp [chain?,entry,filters_close]

theorem output?_filtered {name filter s : List Char} {f : FilterCall} (identifier : isIdentifier name)
    (plain : isVariable name) (filter_identifier : isIdentifier filter) {rest : List Char}
    (read : filter? (filter ++ s) = some (f,' ' :: '}' :: '}' :: rest)) :
    output? ('{' :: '{' :: ' ' :: (name ++ ' ' :: '|' :: ' ' :: (filter ++ s))) =
      some (.output ⟨variableOf name [],[f]⟩,rest) := by
  have entry := expression?_single identifier plain
    (show endsSteps (' ' :: '|' :: ' ' :: (filter ++ s)) from rfl)
  have bar : Text.after? ['|'] (skipBlanks (' ' :: '|' :: ' ' :: (filter ++ s))) =
      some (' ' :: (filter ++ s)) := by
    rw [skipBlanks_space (skipBlanks_other rfl _)]
    exact Text.after?_append ['|'] _
  have spaced := skipBlanks_space (skipBlanks_identifier filter_identifier s)
  refine output?_chain identifier ?_
  simp [chain?,entry,filters_some bar (spaced.symm ▸ read),filters_close]

/-- No filter stands and no output ends within a path. -/
theorem unended {c : Char} {more : List Char}
    (parts : ∀ d ∈ c :: more, isIdentifierPart d ∨ d = '.') (rest : List Char) :
    Text.after? ['|'] (skipBlanks (c :: (more ++ ' ' :: rest))) = none ∧
      afterClosing? ['}','}'] (skipBlanks (c :: (more ++ ' ' :: rest))) = none := by
  have apart {d e : Char} (member : d ∈ c :: more) (other : isIdentifierPart e = false)
      (point : '.' ≠ e) : e ≠ d := by
    rcases parts d member with part | rfl
    · exact (Text.ne_of_part part other).symm
    · exact point.symm
  have here := List.mem_cons_self (a := c) (l := more)
  have blank : isBlank c = false := by
    simp [isBlank,(apart here (e := ' ') rfl (by decide)).symm,
      (apart here (e := '\n') rfl (by decide)).symm,(apart here (e := '\r') rfl (by decide)).symm]
  have dashed : Text.after? ['}','}'] (more ++ ' ' :: rest) = none := by
    cases more with
    | nil => rfl
    | cons d more =>
      rw [List.cons_append,Text.after?_cons,if_neg (apart (by simp) rfl (by decide))]
  rw [skipBlanks_other blank]
  constructor
  · rw [Text.after?_cons,if_neg (apart here rfl (by decide))]
  · simp [afterClosing?,Text.after?_cons,dashed,apart here (e := '}') rfl (by decide)]

theorem parts_afterPoints {names : List (List Char)} (identifiers : ∀ n ∈ names, isIdentifier n) :
    ∀ c ∈ afterPoints names, isIdentifierPart c ∨ c = '.' := by
  intro c member
  obtain ⟨n,named,member⟩ := List.mem_flatMap.mp member
  rcases List.mem_cons.mp member with rfl | member
  · exact .inr rfl
  · exact .inl (Text.parts_of_identifier (identifiers n named) c member)

/-- A literal that begins a path is read before the rest of the path. -/
theorem chain?_literal {first rest more : List Char} {v : Value}
    (word : wordLiteral? first = some (v,more)) (ends : endsIdentifier rest)
    (last : Text.after? ['|'] (skipBlanks (more ++ rest)) = none) :
    chain? (first ++ rest) = some (⟨.literal v,[]⟩,more ++ rest) := by
  have entry : expression? (first ++ rest) = some (.literal v,more ++ rest) := by
    rw [expression?,depthOf,value?,literal?,wordLiteral?_ends first ends,word]
    rfl
  simp [chain?,entry,filters_none last]

/-- A path between braces and blanks is an output of what is read of it, if it is all read. -/
theorem output?_read {first : List Char} {names : List (List Char)}
    (identifiers : ∀ n ∈ first :: names, isIdentifier n) (rest : List Char) :
    output? ('{' :: '{' :: ' ' :: (first ++ afterPoints names ++ ' ' :: '}' :: '}' :: rest)) =
      (readPath? first names).map fun e => (.output ⟨e,[]⟩,rest) := by
  obtain ⟨identifier,others⟩ := List.forall_mem_cons.mp identifiers
  rcases word : wordLiteral? first with _ | ⟨v,more⟩
  · rw [output?_path identifiers (wordLiteral?_eq_none_iff.mp word),readPath?,word,Option.map_some]
  have ends := endsIdentifier_of_endsName
    (endsName_afterPoints names (show endsSteps (' ' :: '}' :: '}' :: rest) from rfl))
  rw [List.append_assoc]
  by_cases whole : more = [] ∧ names = []
  · have close : skipBlanks (' ' :: '}' :: '}' :: rest) = '}' :: '}' :: rest :=
      skipBlanks_space (skipBlanks_other rfl _)
    have read : readPath? first names = some (.literal v) := by
      simp only [readPath?,word,if_pos whole]
    obtain ⟨rfl,rfl⟩ := whole
    rw [read]
    refine output?_chain identifier (chain?_literal word ends ?_)
    rw [Text.afterPoints_nil,List.nil_append,List.nil_append,close,Text.after?_cons,if_neg (by decide)]
  · have unread : readPath? first names = none := by
      simp only [readPath?,word,if_neg whole]
    have parts : ∀ d ∈ more ++ afterPoints names, isIdentifierPart d ∨ d = '.' := by
      refine List.forall_mem_append.mpr ⟨fun d member => .inl ?_,parts_afterPoints others⟩
      exact Text.parts_of_identifier identifier d ((wordLiteral?_suffix word).subset member)
    have filled : more ++ afterPoints names ≠ [] := by
      intro empty
      obtain ⟨rfl,points⟩ := List.append_eq_nil_iff.mp empty
      have few := Text.length_le_afterPoints names
      rw [points] at few
      exact whole ⟨rfl,List.eq_nil_of_length_eq_zero (Nat.le_zero.mp few)⟩
    obtain ⟨c,left,spelled⟩ := List.exists_cons_of_ne_nil filled
    rw [spelled] at parts
    obtain ⟨bar,closing⟩ := unended parts ('}' :: '}' :: rest)
    rw [← List.cons_append,← spelled,List.append_assoc] at bar closing
    rw [output?_eq identifier,chain?_literal word ends bar,unread]
    simp [closing]

/-- No value begins with a sign of a tag. -/
theorem expression?_sign {c : Char} (sign : c ∈ ['=','%']) (rest : List Char) :
    expression? (c :: rest) = none := by
  simp only [List.mem_cons,List.not_mem_nil,or_false] at sign
  rcases sign with rfl | rfl <;>
    simp [expression?,depthOf,value?,literal?,wordLiteral?,wordLiterals,Text.after?_cons,
      quotedLiteral?,numberLiteral?,Double.splitSign,Char.isDigit,name?]

theorem tokens_some {s t rest : List Char} {token : Token} (blanks : skipBlanks s = t)
    (read : token? t = some (token,rest)) (fuel : Nat) :
    tokens (fuel + 1) s = (token :: (tokens fuel rest).1,(tokens fuel rest).2) := by
  simp [tokens,blanks,read]

theorem tokens_none {s t : List Char} (blanks : skipBlanks s = t) (read : token? t = none)
    (fuel : Nat) : tokens fuel s = ([],s) := by
  cases fuel with
  | zero => rfl
  | succ fuel => simp [tokens,blanks,read]

theorem token?_single {name rest : List Char} (identifier : isIdentifier name)
    (plain : isVariable name) (ends : endsSteps rest)
    (last : Text.after? ['|'] (skipBlanks rest) = none) :
    token? (name ++ rest) = some (.chain ⟨variableOf name [],[]⟩,rest) := by
  have entry := expression?_single identifier plain ends
  have unranged : range? (name ++ rest) = none := by
    obtain ⟨c,tail,rfl,starts,-⟩ := Text.exists_of_identifier identifier
    have apart : '(' ≠ c := (Text.ne_of_starts starts rfl).symm
    simp [range?,Text.after?_cons,apart]
  simp [token?,unranged,chain?,entry,filters_none last]

theorem range?_sign {c : Char} (other : c ≠ '(') (rest : List Char) : range? (c :: rest) = none := by
  simp [range?,Text.after?_cons,other.symm]

theorem token?_equals (rest : List Char) : token? ('=' :: ' ' :: rest) = some (.mark "=",' ' :: rest) := by
  have value := expression?_sign (c := '=') (by simp) (' ' :: rest)
  have mark : mark? ('=' :: ' ' :: rest) = some (.mark "=",' ' :: rest) := by
    simp [mark?,marks,Text.after?_cons]
  simp [token?,range?_sign (c := '=') (by decide),chain?,value,mark]

theorem token?_close (rest : List Char) : token? ('%' :: rest) = none := by
  have value := expression?_sign (c := '%') (by simp) rest
  have mark : mark? ('%' :: rest) = none := by
    simp [mark?,marks,Text.after?_cons]
  simp [token?,range?_sign (c := '%') (by decide),chain?,value,mark]

theorem tag?_given {name key field : List Char} (identifier : isIdentifier name)
    (key_identifier : isIdentifier key) (key_plain : isVariable key)
    (field_identifier : isIdentifier field) (field_plain : isVariable field) (rest : List Char) :
    tag? ('{' :: '%' :: ' ' :: (name ++ ' ' :: (key ++ ' ' :: '=' :: ' ' ::
        (field ++ ' ' :: '%' :: '}' :: rest)))) =
      some (.tag (String.ofList name) [.chain ⟨variableOf key [],[]⟩,.mark "=",
        .chain ⟨variableOf field [],[]⟩],rest) := by
  have named := name?_append identifier
    (show endsName (' ' :: (key ++ ' ' :: '=' :: ' ' :: (field ++ ' ' :: '%' :: '}' :: rest))) from rfl)
  have percent : skipBlanks (' ' :: '%' :: '}' :: rest) = '%' :: '}' :: rest :=
    skipBlanks_space (skipBlanks_other rfl _)
  have equals : skipBlanks (' ' :: '=' :: ' ' :: (field ++ ' ' :: '%' :: '}' :: rest)) =
      '=' :: ' ' :: (field ++ ' ' :: '%' :: '}' :: rest) := skipBlanks_space (skipBlanks_other rfl _)
  have value : token? (field ++ ' ' :: '%' :: '}' :: rest) =
      some (.chain ⟨variableOf field [],[]⟩,' ' :: '%' :: '}' :: rest) :=
    token?_single field_identifier field_plain rfl (by rw [percent,Text.after?_cons,if_neg (by decide)])
  have word : token? (key ++ ' ' :: '=' :: ' ' :: (field ++ ' ' :: '%' :: '}' :: rest)) =
      some (.chain ⟨variableOf key [],[]⟩,' ' :: '=' :: ' ' :: (field ++ ' ' :: '%' :: '}' :: rest)) :=
    token?_single key_identifier key_plain rfl (by rw [equals,Text.after?_cons,if_neg (by decide)])
  have row (fuel : Nat) : tokens (fuel + 3)
      (' ' :: (key ++ ' ' :: '=' :: ' ' :: (field ++ ' ' :: '%' :: '}' :: rest))) =
      ([.chain ⟨variableOf key [],[]⟩,.mark "=",.chain ⟨variableOf field [],[]⟩],
        ' ' :: '%' :: '}' :: rest) := by
    rw [tokens_some (skipBlanks_space (skipBlanks_identifier key_identifier _)) word,
      tokens_some equals (token?_equals _),
      tokens_some (skipBlanks_space (skipBlanks_identifier field_identifier _)) value,
      tokens_none percent (token?_close _)]
  have long : (' ' :: (key ++ ' ' :: '=' :: ' ' :: (field ++ ' ' :: '%' :: '}' :: rest))).length =
      (key ++ ' ' :: (field ++ ' ' :: '%' :: '}' :: rest)).length + 3 := by
    simp only [List.length_cons,List.length_append]
    omega
  have opening : afterOpening? ['{','%'] ('{' :: '%' :: ' ' :: (name ++ ' ' :: (key ++ ' ' :: '=' ::
      ' ' :: (field ++ ' ' :: '%' :: '}' :: rest)))) = some (' ' :: (name ++ ' ' :: (key ++ ' ' ::
      '=' :: ' ' :: (field ++ ' ' :: '%' :: '}' :: rest)))) := by
    simp [afterOpening?,skipBlanks_brace,Text.after?_cons]
  have closing : afterClosing? ['%','}'] ('%' :: '}' :: rest) = some rest := by
    simp [afterClosing?,Text.after?_cons]
  simp only [tag?,opening,skipBlanks_space (skipBlanks_identifier identifier _),named,
    Option.bind_eq_bind,Option.bind_some,long,row,percent,closing,Option.pure_def]

end Placard.Liquid
