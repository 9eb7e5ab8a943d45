import CondDoc.Proofs.Expression.Reading

namespace CondDoc.Expression

/-- Names behind points. -/
inductive Names : List Token → List String → Prop where
  | none : Names [] []
  | more {dot name : String} {tokens : List Token} {names : List String} :
      Names tokens names → Names (⟨.dot, dot⟩ :: ⟨.identifier, name⟩ :: tokens) (name :: names)

/-- The value of a path. Unless in strict mode, an unknown one is false. -/
inductive Denotes (context : Context) (names : List String) : Value → Prop where
  | known {value : Value} :
      context.resolver.resolve? (Text.joinWith '.' names) = some value →
        Denotes context names value
  | unknown :
      context.resolver.resolve? (Text.joinWith '.' names) = none →
        context.options.strict = false → Denotes context names (.boolean false)

theorem lookup_eq_ok_iff {context : Context} {names : List String} {value : Value} :
    context.lookup (path names) = .ok value ↔ Denotes context names value := by
  unfold Context.lookup path
  constructor
  · intro h
    split at h
    · rename_i found hfound
      cases h
      exact .known hfound
    · rename_i hnone
      split at h
      · cases h
      · rename_i hstrict
        cases h
        exact .unknown hnone (by simpa using hstrict)
  · intro h
    cases h with
    | known hfound => rw [hfound]
    | unknown hnone hstrict =>
      rw [hnone, hstrict]
      rfl

/-- The categories of phrases. -/
inductive Category where
  | disjunction | conjunction | negation | comparison | primary
  | arguments | argumentList | argument | itemList

namespace Category

/-- What the phrases of a category mean. -/
def Meaning : Category → Type
  | .disjunction | .conjunction | .negation | .comparison => Bool
  | .primary | .argument => Value
  | .arguments | .argumentList | .itemList => List Value

end Category

section

variable (context : Context)

/-- Are the tokens a phrase of the category, with the given meaning? -/
inductive Derives : (category : Category) → List Token → category.Meaning → Prop where
  | conjunction {tokens : List Token} {value : Bool} :
      Derives .conjunction tokens value → Derives .disjunction tokens value
  | or {left right : List Token} {text : String} {a b : Bool} :
      Derives .disjunction left a → Derives .conjunction right b →
        Derives .disjunction (left ++ ⟨.or, text⟩ :: right) (a || b)
  | negation {tokens : List Token} {value : Bool} :
      Derives .negation tokens value → Derives .conjunction tokens value
  | and {left right : List Token} {text : String} {a b : Bool} :
      Derives .conjunction left a → Derives .negation right b →
        Derives .conjunction (left ++ ⟨.and, text⟩ :: right) (a && b)
  | comparison {tokens : List Token} {value : Bool} :
      Derives .comparison tokens value → Derives .negation tokens value
  | not {tokens : List Token} {text : String} {value : Bool} :
      Derives .negation tokens value → Derives .negation (⟨.not, text⟩ :: tokens) (!value)
  | truth {tokens : List Token} {value : Value} :
      Derives .primary tokens value → Derives .comparison tokens value.truthy
  | equals {left right : List Token} {text : String} {v w : Value} {same : Bool} :
      Derives .primary left v → Derives .primary right w →
        Value.equal context.options.strict context.options.caseSensitive v w = .ok same →
        Derives .comparison (left ++ ⟨.equals, text⟩ :: right) same
  | notEquals {left right : List Token} {text : String} {v w : Value} {same : Bool} :
      Derives .primary left v → Derives .primary right w →
        Value.equal context.options.strict context.options.caseSensitive v w = .ok same →
        Derives .comparison (left ++ ⟨.notEquals, text⟩ :: right) (!same)
  | parentheses {tokens : List Token} {opening closing : String} {value : Bool} :
      Derives .disjunction tokens value →
        Derives .primary (⟨.leftParen, opening⟩ :: (tokens ++ [⟨.rightParen, closing⟩]))
          (.boolean value)
  | string {text : String} : Derives .primary [⟨.string, text⟩] (.string text)
  | number {text : String} {x : Number} :
      Number.ofText? text = some x → Derives .primary [⟨.number, text⟩] (.number x)
  | boolean {text : String} : Derives .primary [⟨.boolean, text⟩] (.boolean (text == "true"))
  | reference {name : String} {tokens : List Token} {names : List String} {value : Value} :
      Names tokens names → Denotes context (name :: names) value →
        Derives .primary (⟨.identifier, name⟩ :: tokens) value
  | call {name opening closing : String} {tokens : List Token} {values : List Value}
      {answer : Bool} :
      Derives .arguments tokens values → Builtin.call context.options name values = .ok answer →
        Derives .primary
          (⟨.identifier, name⟩ :: ⟨.leftParen, opening⟩ :: (tokens ++ [⟨.rightParen, closing⟩]))
          (.boolean answer)
  | method {name method opening closing : String} {before tokens : List Token}
      {names : List String} {receiver : Value} {values : List Value} {answer : Bool} :
      Names before (names ++ [method]) → Denotes context (name :: names) receiver →
        Derives .arguments tokens values →
        Builtin.call context.options method (receiver :: values) = .ok answer →
        Derives .primary
          (⟨.identifier, name⟩ ::
            (before ++ ⟨.leftParen, opening⟩ :: (tokens ++ [⟨.rightParen, closing⟩])))
          (.boolean answer)
  | noArguments : Derives .arguments [] []
  | someArguments {tokens : List Token} {values : List Value} :
      Derives .argumentList tokens values → Derives .arguments tokens values
  | lastArgument {tokens : List Token} {value : Value} :
      Derives .argument tokens value → Derives .argumentList tokens [value]
  | nextArgument {first others : List Token} {text : String} {value : Value}
      {values : List Value} :
      Derives .argument first value → Derives .argumentList others values →
        Derives .argumentList (first ++ ⟨.comma, text⟩ :: others) (value :: values)
  | plainArgument {tokens : List Token} {value : Value} :
      Derives .primary tokens value → Derives .argument tokens value
  | emptyArray {opening closing : String} :
      Derives .argument [⟨.leftBracket, opening⟩, ⟨.rightBracket, closing⟩] (.array [])
  | array {tokens : List Token} {opening closing : String} {items : List Value} :
      Derives .itemList tokens items →
        Derives .argument (⟨.leftBracket, opening⟩ :: (tokens ++ [⟨.rightBracket, closing⟩]))
          (.array items)
  | lastItem {tokens : List Token} {value : Value} :
      Derives .primary tokens value → Derives .itemList tokens [value]
  | nextItem {first others : List Token} {text : String} {value : Value} {items : List Value} :
      Derives .primary first value → Derives .itemList others items →
        Derives .itemList (first ++ ⟨.comma, text⟩ :: others) (value :: items)

end

end CondDoc.Expression
