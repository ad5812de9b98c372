import LiveShell.Code.Lexeme

/-!
Brackets among the lexemes of code. Reading keeps the brackets that are open on a stack and stops at a bracket that does
not fit, so what is read through is balanced. A text within an opening and a closing bracket is balanced by itself, or
it closes the first bracket and opens one for the last.
-/

namespace LiveShell.Code.Lexeme

set_option autoImplicit false

/-! ### Balanced lexemes -/

/-- Each opening bracket with the one that closes it. -/
def bracketPairs : List (String × String) := [("(", ")"), ("[", "]"), ("\x7b", "\x7d")]

def isBracket : Lexeme → Bool
  | operator sign => bracketPairs.any fun pair => sign = pair.1 || sign = pair.2
  | _ => false

/-- Lexemes in which every bracket has its partner. -/
inductive Balanced : List Lexeme → Prop
  | nil : Balanced []
  | plain {lexeme : Lexeme} {rest : List Lexeme} (noBracket : lexeme.isBracket = false) (after : Balanced rest) :
      Balanced (lexeme :: rest)
  | group {opening closing : String} {inside rest : List Lexeme} (pair : (opening, closing) ∈ bracketPairs)
      (within : Balanced inside) (after : Balanced rest) :
      Balanced (operator opening :: (inside ++ operator closing :: rest))

theorem opening_of_round {opening : String} (pair : (opening, ")") ∈ bracketPairs) : opening = "(" := by
  simpa [bracketPairs] using pair

theorem closing_of_round {closing : String} (pair : ("(", closing) ∈ bracketPairs) : closing = ")" := by
  simpa [bracketPairs] using pair

/-- A closing bracket at the end of balanced lexemes has its partner among them. -/
theorem Balanced.last_group {whole before : List Lexeme} (balanced : Balanced whole)
    (ends : whole = before ++ [operator ")"]) :
    ∃ middle last, before = middle ++ operator "(" :: last ∧ Balanced middle ∧ Balanced last := by
  induction balanced generalizing before with
  | nil => simp at ends
  | plain noBracket after induction =>
      rcases List.append_eq_cons_iff.mp ends.symm with ⟨rfl, single⟩ | ⟨later, rfl, remaining⟩
      · cases single
        exact absurd noBracket (by decide)
      · obtain ⟨middle, last, rfl, left, right⟩ := induction remaining
        exact ⟨_ :: middle, last, rfl, .plain noBracket left, right⟩
  | @group opening closing inside rest pair within after _ induction =>
      rcases List.eq_nil_or_concat rest with rfl | ⟨later, final, rfl⟩
      · -- The closing bracket is that of this group.
        have same : (operator opening :: inside) ++ [operator closing] = before ++ [operator ")"] := ends
        obtain ⟨rfl, closed⟩ := List.append_inj' same rfl
        cases closed
        obtain rfl := opening_of_round pair
        exact ⟨[], inside, rfl, .nil, within⟩
      · rw [List.concat_eq_append] at ends induction
        have same : (operator opening :: (inside ++ operator closing :: later)) ++ [final] =
            before ++ [operator ")"] := by
          simpa using ends
        obtain ⟨rfl, closed⟩ := List.append_inj' same rfl
        obtain ⟨middle, last, rfl, left, right⟩ := induction (congrArg (later ++ ·) closed)
        exact ⟨operator opening :: (inside ++ operator closing :: middle), last, by simp, .group pair within left, right⟩

/-! ### The stack of open brackets -/

/-- The brackets that are open after a lexeme, if it fits. -/
def bracketsPast (brackets : List Char) : Lexeme → Option (List Char)
  | operator sign => (trackBrackets brackets sign).toOption
  | _ => some brackets

/-- The brackets that are open after lexemes, if they all fit. -/
def bracketsAfter (brackets : List Char) : List Lexeme → Option (List Char)
  | [] => some brackets
  | lexeme :: rest => (bracketsPast brackets lexeme).bind fun later => bracketsAfter later rest

variable {brackets later : List Char} {lexemes first second : List Lexeme} {lexeme : Lexeme}

theorem brackets_after_append :
    bracketsAfter brackets (first ++ second) =
      (bracketsAfter brackets first).bind fun between => bracketsAfter between second := by
  induction first generalizing brackets with
  | nil => rfl
  | cons lexeme rest induction =>
      simp only [List.cons_append, bracketsAfter, Option.bind_assoc, induction]

def openers : List Char := ['(', '[', '\x7b']

/-- What a lexeme does to the open brackets: nothing, unless it is a bracket; or it opens one; or it closes the one
that was opened last. -/
inductive Passes (brackets : List Char) : Lexeme → List Char → Prop
  | plain {lexeme : Lexeme} (noBracket : lexeme.isBracket = false) : Passes brackets lexeme brackets
  | opening {character : Char} (opens : character ∈ openers) :
      Passes brackets (operator (String.singleton character)) (character :: brackets)
  | closing {character : Char} {below : List Char} (top : brackets = character :: below) :
      Passes brackets (operator (String.singleton (closerOf character))) below

theorem pair_of_closer {opener : Char} (opens : opener ∈ openers) :
    (String.singleton opener, String.singleton (closerOf opener)) ∈ bracketPairs := by
  have cases : opener = '(' ∨ opener = '[' ∨ opener = '\x7b' := by simpa [openers] using opens
  rcases cases with rfl | rfl | rfl <;> decide

theorem singleton_of_to_list {sign : String} {character : Char} (spelled : sign.toList = [character]) :
    sign = String.singleton character := by
  rw [← String.ofList_toList (s := sign), spelled, String.singleton_eq_ofList]

/-- A sign is no bracket, unless it is a single character that opens or closes one. -/
theorem not_bracket {sign : String} (plain : ∀ character, sign.toList = [character] →
    "([\x7b".toList.contains character = false ∧ ")]\x7d".toList.contains character = false) :
    (operator sign).isBracket = false := by
  simp only [isBracket, bracketPairs, List.any_cons, List.any_nil, Bool.or_false, Bool.or_eq_false_iff,
    decide_eq_false_iff_not]
  refine ⟨⟨?_, ?_⟩, ⟨?_, ?_⟩, ?_, ?_⟩ <;> rintro rfl <;> exact absurd (plain _ rfl) (by decide)

theorem passes_of_past (passed : bracketsPast brackets lexeme = some later) : Passes brackets lexeme later := by
  cases lexeme with
  | operator sign =>
      simp only [bracketsPast, trackBrackets] at passed
      split at passed
      · next character spelled =>
          split at passed
          · next opens =>
              obtain rfl := singleton_of_to_list spelled
              split at passed
              · cases passed
              · cases passed
                exact .opening (List.contains_iff_mem.mp opens)
          · next notOpening =>
              split at passed
              · obtain rfl := singleton_of_to_list spelled
                split at passed
                · split at passed
                  · next closes =>
                      cases passed
                      rw [← closes]
                      exact .closing rfl
                  · cases passed
                · cases passed
              · next notClosing =>
                  cases passed
                  refine .plain (not_bracket fun other same => ?_)
                  obtain ⟨⟩ := spelled.symm.trans same
                  exact ⟨Bool.eq_false_iff.mpr notOpening, Bool.eq_false_iff.mpr notClosing⟩
      · next several =>
          cases passed
          exact .plain (not_bracket fun character same => absurd same (several character))
  | _ =>
      cases passed
      exact .plain rfl

/-- Behind an open bracket, lexemes close it at some place, with balanced ones before, or leave it open. -/
theorem split_at_close {bracket : Char} {below : List Char} (opens : bracket ∈ openers)
    (passed : bracketsAfter (bracket :: below) lexemes = some later) :
    (∃ inside closing rest, lexemes = inside ++ operator closing :: rest ∧ Balanced inside ∧
        (String.singleton bracket, closing) ∈ bracketPairs ∧ bracketsAfter below rest = some later) ∨
      ∃ above, later = above ++ bracket :: below := by
  induction size : lexemes.length using Nat.strongRecOn generalizing lexemes bracket below with
  | ind count shorter =>
  cases lexemes with
  | nil =>
      cases passed
      exact .inr ⟨[], rfl⟩
  | cons lexeme rest =>
      subst size
      obtain ⟨between, past, after⟩ := Option.bind_eq_some_iff.mp passed
      cases passes_of_past past with
      | plain noBracket =>
          rcases shorter _ (Nat.lt_succ_self _) opens after rfl with
            ⟨inside, closing, remaining, rfl, balanced, closes⟩ | left
          · exact .inl ⟨lexeme :: inside, closing, remaining, rfl, .plain noBracket balanced, closes⟩
          · exact .inr left
      | closing top =>
          cases top
          exact .inl ⟨[], _, rest, rfl, .nil, pair_of_closer opens, after⟩
      | @opening character opensInner =>
          rcases shorter _ (Nat.lt_succ_self _) opensInner after rfl with
            ⟨inside, closing, remaining, rfl, balanced, pair, outside⟩ | ⟨above, rfl⟩
          · -- The inner bracket is closed; what is behind it is searched for the outer one.
            rcases shorter _ (by simp; omega) opens outside rfl with
              ⟨further, closing', last, rfl, balanced', closes⟩ | left
            · exact .inl ⟨operator (String.singleton character) :: (inside ++ operator closing :: further), closing', last,
                by simp, .group pair balanced balanced', closes⟩
            · exact .inr left
          · exact .inr ⟨above ++ [character], by simp⟩

/-- Lexemes that open and close all their brackets are balanced. -/
theorem balanced_of_brackets_after (passed : bracketsAfter [] lexemes = some []) : Balanced lexemes := by
  induction size : lexemes.length using Nat.strongRecOn generalizing lexemes with
  | ind count shorter =>
  cases lexemes with
  | nil => exact .nil
  | cons lexeme rest =>
      subst size
      obtain ⟨between, past, after⟩ := Option.bind_eq_some_iff.mp passed
      cases passes_of_past past with
      | plain noBracket => exact .plain noBracket (shorter _ (Nat.lt_succ_self _) after rfl)
      | closing top => cases top
      | opening opens =>
          rcases split_at_close opens after with ⟨inside, closing, remaining, rfl, balanced, pair, outside⟩ | ⟨above, left⟩
          · exact .group pair balanced (shorter _ (by simp; omega) outside rfl)
          · simp at left

/-- Lexemes that close a bracket before them and open one for a bracket behind them. -/
def ClosesEarly (inner : List Lexeme) : Prop :=
  ∃ first middle last, inner = first ++ operator ")" :: middle ++ operator "(" :: last ∧
    Balanced first ∧ Balanced middle ∧ Balanced last

/-- Between an opening and a closing bracket, either these two belong together, or the lexemes between them close the
first and open one for the last. -/
theorem balanced_or_closes_early {inner : List Lexeme}
    (passed : bracketsAfter [] (operator "(" :: (inner ++ [operator ")"])) = some []) :
    Balanced inner ∨ ClosesEarly inner := by
  have behind : bracketsAfter ['('] (inner ++ [operator ")"]) = some [] := passed
  rcases split_at_close (by decide) behind with ⟨first, closing, rest, split, balanced, pair, outside⟩ | ⟨above, left⟩
  · obtain rfl := closing_of_round pair
    have balancedRest := balanced_of_brackets_after outside
    rcases List.eq_nil_or_concat rest with rfl | ⟨before, final, rfl⟩
    · obtain ⟨rfl, _⟩ := List.append_inj' split rfl
      exact .inl balanced
    · rw [List.concat_eq_append] at split balancedRest
      have same : inner ++ [operator ")"] = (first ++ operator ")" :: before) ++ [final] := by simpa using split
      obtain ⟨rfl, ⟨⟩⟩ := List.append_inj' same rfl
      obtain ⟨middle, last, rfl, left, right⟩ := balancedRest.last_group rfl
      exact .inr ⟨first, middle, last, by simp, balanced, left, right⟩
  · simp at left

end LiveShell.Code.Lexeme
