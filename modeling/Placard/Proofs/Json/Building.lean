import Placard.Json.Reader

/-! How a draft is built lexeme by lexeme: what each lexeme does where it is wanted. -/
namespace Placard.Json

def settle (length : Nat) (d : Draft) (stack : List Frame) (rest : List Token) : Drafted :=
  match place? length d rest stack with
  | none => ⟨d,rest⟩
  | some stack => build length stack .separator rest

inductive WantsValue : Wanted → Prop
  | value : WantsValue .value
  | firstItem : WantsValue .firstItem
  | item : WantsValue .item

inductive WantsName : Wanted → Prop
  | firstName : WantsName .firstName
  | name : WantsName .name

section build

variable {length start stop : Nat} {stack : List Frame} {rest : List Token} {wanted : Wanted}

/-- Where a value may stand, all lexemes but a closing bracket are taken for one. -/
theorem build_wanted (wants : WantsValue wanted) {lexeme : Lexeme} (opens : lexeme ≠ .closeBracket) :
    build length stack wanted (⟨lexeme,start,stop⟩ :: rest) =
      build length stack .value (⟨lexeme,start,stop⟩ :: rest) := by
  cases wants with
  | value => rfl
  | firstItem | item => cases lexeme <;> first | rfl | exact absurd rfl opens

theorem build_null : build length stack .value (⟨.null,start,stop⟩ :: rest) =
    settle length (.null start stop) stack rest := rfl

theorem build_bool (b : Bool) : build length stack .value (⟨.bool b,start,stop⟩ :: rest) =
    settle length (.bool b start stop) stack rest := rfl

theorem build_number (n : Except Fault Json) :
    build length stack .value (⟨.number n,start,stop⟩ :: rest) =
      settle length (.number n start stop) stack rest := rfl

theorem build_string (s : Except Fault String) :
    build length stack .value (⟨.string s,start,stop⟩ :: rest) =
      settle length (.string s stop) stack rest := rfl

theorem build_openBracket : build length stack .value (⟨.openBracket,start,stop⟩ :: rest) =
    build length (.list start [] :: stack) .firstItem rest := rfl

theorem build_openBrace : build length stack .value (⟨.openBrace,start,stop⟩ :: rest) =
    build length (.map start [] :: stack) .firstName rest := rfl

theorem build_empty_list {s : Nat} :
    build length (.list s [] :: stack) .firstItem (⟨.closeBracket,start,stop⟩ :: rest) =
      settle length (.list s [] (.closed stop)) stack rest := rfl

theorem build_empty_map {s : Nat} :
    build length (.map s [] :: stack) .firstName (⟨.closeBrace,start,stop⟩ :: rest) =
      settle length (.map s [] (.closed stop)) stack rest := rfl

theorem settle_item_comma {s : Nat} {d : Draft} {before : List (Draft × Stand)} :
    settle length d (.list s before :: stack) (⟨.comma,start,stop⟩ :: rest) =
      build length (.list s ((d,standInList length (⟨.comma,start,stop⟩ :: rest)) :: before) :: stack)
        .item rest := rfl

theorem settle_item_close {s : Nat} {d : Draft} {before : List (Draft × Stand)} :
    settle length d (.list s before :: stack) (⟨.closeBracket,start,stop⟩ :: rest) =
      settle length (.list s
        ((d,standInList length (⟨.closeBracket,start,stop⟩ :: rest)) :: before).reverse
        (.closed stop)) stack rest := rfl

theorem build_member {s : Nat} (wants : WantsName wanted) {name : Except Fault String}
    {before : List (Name × (Draft × Stand))} {start' stop' : Nat} :
    build length (.map s before :: stack) wanted
        (⟨.string name,start,stop⟩ :: ⟨.colon,start',stop'⟩ :: rest) =
      build length (.member s before
        ⟨name,stop,(standInMap length (⟨.colon,start',stop'⟩ :: rest)).reached⟩ :: stack)
        .value rest := by
  cases wants <;> rfl

theorem settle_member_comma {s : Nat} {d : Draft} {before : List (Name × (Draft × Stand))}
    {name : Name} :
    settle length d (.member s before name :: stack) (⟨.comma,start,stop⟩ :: rest) =
      build length (.map s
        ((name,(d,standInMap length (⟨.comma,start,stop⟩ :: rest))) :: before) :: stack)
        .name rest := rfl

theorem settle_member_close {s : Nat} {d : Draft} {before : List (Name × (Draft × Stand))}
    {name : Name} :
    settle length d (.member s before name :: stack) (⟨.closeBrace,start,stop⟩ :: rest) =
      settle length (.map s
        ((name,(d,standInMap length (⟨.closeBrace,start,stop⟩ :: rest))) :: before).reverse
        (.closed stop)) stack rest := rfl

end build

end Placard.Json
