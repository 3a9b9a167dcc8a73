import IssueQuery.Filter.Select
import IssueQuery.Sql.Error
import IssueQuery.Sql.Select
import IssueQuery.Sql.Token

/-! Reading a statement of a filter. AND binds tighter than OR, and NOT tighter than both. The first token
that cannot stand where it does is the fault. -/

namespace IssueQuery

namespace Sql

def reservedWords : List String :=
  ["ADD", "ALL", "ALTER", "AND", "AS", "AUTOINCREMENT", "BETWEEN", "CASE", "CHECK", "COLLATE", "COMMIT",
    "CONSTRAINT", "CREATE", "DEFAULT", "DEFERRABLE", "DELETE", "DISTINCT", "DROP", "ELSE", "ESCAPE",
    "EXCEPT", "EXISTS", "FOREIGN", "FROM", "GROUP", "HAVING", "IN", "INDEX", "INSERT", "INTERSECT", "INTO",
    "IS", "ISNULL", "JOIN", "LIMIT", "NOT", "NOTHING", "NOTNULL", "NULL", "ON", "OR", "ORDER", "PRIMARY",
    "REFERENCES", "RETURNING", "SELECT", "SET", "TABLE", "THEN", "TO", "TRANSACTION", "UNION", "UNIQUE",
    "UPDATE", "USING", "VALUES", "WHEN", "WHERE"]

namespace Token

def isKeyword (token : Token) (keyword : String) : Bool :=
  token.kind == .word && token.text.toList.map Char.toUpper == keyword.toList

def isSymbol (token : Token) (symbol : Symbol) : Bool :=
  token.kind == .symbol symbol

def isName (token : Token) : Bool :=
  token.kind == .word && !reservedWords.any token.isKeyword

def fault (token : Token) : SqlError :=
  match token.kind with
  | .illegal => .unrecognizedToken token.text token.offset
  | _ => .syntaxError token.text token.offset

def comparison? (token : Token) : Option Comparison :=
  match token.kind with
  | .symbol .eq => some .eq
  | .symbol .ne => some .ne
  | .symbol .lt => some .lt
  | .symbol .gt => some .gt
  | .symbol .le => some .le
  | .symbol .ge => some .ge
  | _ => if token.isKeyword "LIKE" then some .like else none

def literal? (token : Token) : Option Literal :=
  if token.isKeyword "NULL" then some .null
  else if token.isKeyword "TRUE" then some .isTrue
  else if token.isKeyword "FALSE" then some .isFalse
  else none

end Token

def expect (accepts : Token → Bool) : List Token → Except SqlError (Token × List Token)
  | [] => .error .incompleteInput
  | token :: rest => if accepts token then .ok (token, rest) else .error token.fault

def readColumn (tokens : List Token) : Except SqlError (ColumnName × List Token) := do
  let (table, rest) ← expect (·.isKeyword "ISSUE") tokens
  let (_, rest) ← expect (·.isSymbol .dot) rest
  let (name, rest) ← expect Token.isName rest
  return (⟨name.text, table.offset⟩, rest)

def readPlaceholders : List Token → Except SqlError (List String × List Token)
  | [] => .error .incompleteInput
  | [token] => if token.kind == .placeholder then .error .incompleteInput else .error token.fault
  | token :: mark :: rest =>
    if token.kind == .placeholder then
      if mark.isSymbol .comma then do
        let (names, after) ← readPlaceholders rest
        return (token.text :: names, after)
      else if mark.isSymbol .closeParen then .ok ([token.text], rest)
      else .error mark.fault
    else .error token.fault

def readList (tokens : List Token) : Except SqlError (List String × List Token) := do
  let (_, rest) ← expect (·.isSymbol .openParen) tokens
  match rest with
  | mark :: after => if mark.isSymbol .closeParen then return ([], after) else readPlaceholders rest
  | [] => throw .incompleteInput

def readLiteral : List Token → Except SqlError (Literal × List Token)
  | [] => .error .incompleteInput
  | token :: rest =>
    match token.literal? with
    | some literal => .ok (literal, rest)
    | none => .error token.fault

def readTest : List Token → Except SqlError (Test × List Token)
  | [] => .error .incompleteInput
  | token :: rest =>
    match token.comparison? with
    | some comparison => do
      let (placeholder, after) ← expect (·.kind == .placeholder) rest
      return (.compare comparison placeholder.text, after)
    | none =>
      if token.isKeyword "IN" then do
        let (names, after) ← readList rest
        return (.isIn names, after)
      else if token.isKeyword "IS" then
        match rest with
        | second :: after =>
          if second.isKeyword "NOT" then do
            let (literal, after) ← readLiteral after
            return (.isNot literal, after)
          else do
            let (literal, after) ← readLiteral rest
            return (.is literal, after)
        | [] => .error .incompleteInput
      else .error token.fault

def readComparison (tokens : List Token) : Except SqlError (Expr × List Token) := do
  let (column, rest) ← readColumn tokens
  let (test, rest) ← readTest rest
  return (.test column test, rest)

structure Pending where
  disjuncts : Option Expr := none
  conjuncts : Option Expr := none
  negations : Nat := 0

structure Complete where
  disjuncts : Option Expr
  conjuncts : Expr

def negate : Nat → Expr → Expr
  | 0, expr => expr
  | n + 1, expr => .not (negate n expr)

def Pending.push (pending : Pending) (operand : Expr) : Complete where
  disjuncts := pending.disjuncts
  conjuncts :=
    match pending.conjuncts with
    | none => negate pending.negations operand
    | some left => .and left (negate pending.negations operand)

def Complete.expr (complete : Complete) : Expr :=
  match complete.disjuncts with
  | none => complete.conjuncts
  | some left => .or left complete.conjuncts

theorem expect_length {accepts : Token → Bool} {tokens : List Token} {found : Token × List Token}
    (read : expect accepts tokens = .ok found) : found.2.length < tokens.length := by
  unfold expect at read
  split at read
  · cases read
  · split at read
    · cases read
      simp
    · cases read

theorem bind_ok {α β : Type} {first : Except SqlError α} {next : α → Except SqlError β} {b : β}
    (both : (first >>= next) = .ok b) : ∃ a, first = .ok a ∧ next a = .ok b := by
  cases first with
  | error e => cases both
  | ok a => exact ⟨a, rfl, both⟩

theorem readColumn_length {tokens : List Token} {found : ColumnName × List Token}
    (read : readColumn tokens = .ok found) : found.2.length < tokens.length := by
  obtain ⟨table, first, read⟩ := bind_ok read
  obtain ⟨dot, second, read⟩ := bind_ok read
  obtain ⟨name, third, read⟩ := bind_ok read
  cases read
  have := expect_length first
  have := expect_length second
  have := expect_length third
  simp only
  omega

theorem readPlaceholders_length {tokens : List Token} {found : List String × List Token}
    (read : readPlaceholders tokens = .ok found) : found.2.length < tokens.length := by
  fun_induction readPlaceholders tokens generalizing found with
  | case1 => cases read
  | case2 => cases read
  | case3 => cases read
  | case4 _ _ _ _ _ ih =>
    obtain ⟨names, inner, read⟩ := bind_ok read
    cases read
    have := ih inner
    simp only [List.length_cons]
    omega
  | case5 =>
    cases read
    simp only [List.length_cons]
    omega
  | case6 => cases read
  | case7 => cases read

theorem readList_length {tokens : List Token} {found : List String × List Token}
    (read : readList tokens = .ok found) : found.2.length < tokens.length := by
  obtain ⟨⟨_, rest⟩, first, read⟩ := bind_ok read
  have := expect_length first
  simp only at this
  cases rest with
  | nil => cases read
  | cons mark after =>
    simp only at read
    split at read
    · cases read
      simp only [List.length_cons] at this
      simp only
      omega
    · exact Nat.lt_trans (readPlaceholders_length read) this

theorem readLiteral_length {tokens : List Token} {found : Literal × List Token}
    (read : readLiteral tokens = .ok found) : found.2.length < tokens.length := by
  unfold readLiteral at read
  split at read
  · cases read
  · split at read
    · cases read
      simp
    · cases read

theorem readTest_length {tokens : List Token} {found : Test × List Token}
    (read : readTest tokens = .ok found) : found.2.length < tokens.length := by
  unfold readTest at read
  split at read
  · cases read
  · split at read
    · obtain ⟨placeholder, first, read⟩ := bind_ok read
      cases read
      exact Nat.lt_succ_of_lt (expect_length first)
    · split at read
      · obtain ⟨names, first, read⟩ := bind_ok read
        cases read
        exact Nat.lt_succ_of_lt (readList_length first)
      · split at read
        · split at read
          · split at read
            · obtain ⟨literal, first, read⟩ := bind_ok read
              cases read
              have := readLiteral_length first
              simp only [List.length_cons]
              omega
            · obtain ⟨literal, first, read⟩ := bind_ok read
              cases read
              exact Nat.lt_succ_of_lt (readLiteral_length first)
          · cases read
        · cases read

theorem readComparison_length {tokens : List Token} {found : Expr × List Token}
    (read : readComparison tokens = .ok found) : found.2.length < tokens.length := by
  obtain ⟨column, first, read⟩ := bind_ok read
  obtain ⟨test, second, read⟩ := bind_ok read
  cases read
  exact Nat.lt_trans (readTest_length second) (readColumn_length first)

mutual

/-- Reads on where an operand has to come; `outer` holds the expressions around open parentheses. -/
def readOperand (outer : List Pending) (pending : Pending) :
    List Token → Except SqlError (Expr × List Token)
  | [] => .error .incompleteInput
  | token :: rest =>
    if token.isKeyword "NOT" then
      readOperand outer { pending with negations := pending.negations + 1 } rest
    else if token.isSymbol .openParen then readOperand (pending :: outer) {} rest
    else
      match _read : readComparison (token :: rest) with
      | .error e => .error e
      | .ok (operand, after) => readOperator outer (pending.push operand) after
  termination_by tokens => tokens.length
  decreasing_by
    · simp
    · simp
    · exact readComparison_length _read

def readOperator (outer : List Pending) (complete : Complete) :
    List Token → Except SqlError (Expr × List Token)
  | [] => if outer.isEmpty then .ok (complete.expr, []) else .error .incompleteInput
  | token :: rest =>
    if token.isKeyword "AND" then
      readOperand outer ⟨complete.disjuncts, some complete.conjuncts, 0⟩ rest
    else if token.isKeyword "OR" then readOperand outer ⟨some complete.expr, none, 0⟩ rest
    else
      match outer with
      | [] => .ok (complete.expr, token :: rest)
      | pending :: outer =>
        if token.isSymbol .closeParen then readOperator outer (pending.push complete.expr) rest
        else .error token.fault
  termination_by tokens => tokens.length

end

def readDirection : List Token → Bool × List Token
  | [] => (false, [])
  | token :: rest =>
    if token.isKeyword "ASC" then (false, rest)
    else if token.isKeyword "DESC" then (true, rest)
    else (false, token :: rest)

theorem readDirection_length (tokens : List Token) :
    (readDirection tokens).2.length ≤ tokens.length := by
  fun_cases readDirection tokens <;> simp

def readOrdering (tokens : List Token) : Except SqlError (List SortTerm) :=
  match _read : readColumn tokens with
  | .error e => .error e
  | .ok (column, rest) =>
    match _shape : (readDirection rest).2 with
    | [] => .ok [⟨column, (readDirection rest).1⟩]
    | mark :: after =>
      if mark.isSymbol .comma then do
        let more ← readOrdering after
        return ⟨column, (readDirection rest).1⟩ :: more
      else .error mark.fault
  termination_by tokens.length
  decreasing_by
    have first := readColumn_length _read
    have second := readDirection_length rest
    rw [_shape] at second
    simp only [List.length_cons] at first second
    omega

def readOrderingClause (tokens : List Token) : Except SqlError (List SortTerm) :=
  match tokens with
  | [] => .ok []
  | _ => do
    let (_, rest) ← expect (·.isKeyword "ORDER") tokens
    let (_, rest) ← expect (·.isKeyword "BY") rest
    readOrdering rest

namespace Select

def ofTokens (tokens : List Token) : Except SqlError Select :=
  match tokens with
  | [] => .ok ⟨none, []⟩
  | token :: rest =>
    if token.isKeyword "WHERE" then do
      let (condition, rest) ← readOperand [] {} rest
      let ordering ← readOrderingClause rest
      return ⟨some condition, ordering⟩
    else do
      let ordering ← readOrderingClause tokens
      return ⟨none, ordering⟩

def ofSql (sql : String) : Except SqlError Select := do
  let head := selectHead.toList
  if !head.isPrefixOf sql.toList then throw (.syntaxError "SELECT" 0)
  let select ← ofTokens (tokens (Text.byteLength head) (sql.toList.drop head.length))
  match select.unknownColumn? with
  | some column => throw (.noSuchColumn (tableAlias ++ "." ++ column.name) column.offset)
  | none => return select

end Select

end Sql

end IssueQuery
