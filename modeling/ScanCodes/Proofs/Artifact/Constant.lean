import ScanCodes.Proofs.Artifact.Reading

/-!
# Character constants

What C makes of a literal between single quotes. Behind the opening quote a backslash takes the next
character with it, a line feed is an error, and the first quote that no backslash has taken closes
the constant. What has been written for a literal is meant to be one constant, so it has to close at
the last quote and not before.

A quote that stands bare, because a small letter follows it, closes the constant too early, and a
line feed cannot stand in one. Nothing else goes wrong: the character that a bare backslash takes is
the small letter behind it, and so never the backslash of an escape nor the closing quote.

## Main definitions

* `Artifact.Source.close?`: reads a constant up to the quote that closes it.
* `Artifact.Source.IsConstant`: the text is one constant.
* `Artifact.Source.HasBareQuote`: a quote in the literal stands in front of a small letter.

## Main results

* `Artifact.Source.close?_escapeChars`: when what has been written for a literal closes where it
  should.
* `Artifact.Source.isConstant_escape_iff`: when it is one constant.
-/

namespace ScanCodes.Artifact.Source

/-- Reads a character constant on from behind its opening quote, and gives what follows the quote
that closes it. -/
def close? : List Char → Option (List Char)
  | [] => none
  | '\\' :: _ :: cs => close? cs
  | c :: cs => if c = '\n' then none else if c = '\x27' then some cs else close? cs

/-- The text is one character constant: it begins with a quote, and the constant closes at its last
character. -/
def IsConstant (text : String) : Prop :=
  ∃ cs, text.toList = '\x27' :: cs ∧ close? cs = some []

/-- A quote stands right in front of a small letter. -/
def HasBareQuote (cs : List Char) : Prop :=
  ∃ c : Char, c.isLower ∧ ['\x27', c] <:+: cs

/-! ### Reading a constant -/

theorem close?_escape (c : Char) (cs : List Char) : close? ('\\' :: c :: cs) = close? cs := by
  rw [close?]

theorem close?_lineFeed (cs : List Char) : close? ('\n' :: cs) = none := by
  simp [close?]

theorem close?_quote (cs : List Char) : close? ('\x27' :: cs) = some cs := by
  simp [close?]

theorem close?_cons {c : Char} (hslash : c ≠ '\\') (hfeed : c ≠ '\n') (hquote : c ≠ '\x27')
    (cs : List Char) : close? (c :: cs) = close? cs := by
  rw [close?, if_neg hfeed, if_neg hquote]
  exact fun _ _ heq _ => hslash heq

/-- A small letter does not mind being taken by a backslash. -/
theorem close?_bareBackslash {c : Char} (h : c.isLower) (cs : List Char) :
    close? ('\\' :: c :: cs) = close? (c :: cs) := by
  have hslash : c ≠ '\\' := by rintro rfl; cases h
  have hfeed : c ≠ '\n' := by rintro rfl; cases h
  have hquote : c ≠ '\x27' := by rintro rfl; cases h
  rw [close?_escape, close?_cons hslash hfeed hquote]

/-! ### Bare quotes -/

theorem hasBareQuote_cons {c : Char} {cs : List Char} :
    HasBareQuote (c :: cs) ↔ c = '\x27' ∧ cs.head?.any Char.isLower ∨ HasBareQuote cs := by
  constructor
  · rintro ⟨d, hlower, hinfix⟩
    rcases List.infix_cons_iff.1 hinfix with hprefix | hinfix
    · obtain ⟨hquote, ds, rfl⟩ := List.cons_prefix_cons.1 hprefix
      exact Or.inl ⟨hquote.symm, hlower⟩
    · exact Or.inr ⟨d, hlower, hinfix⟩
  · rintro (⟨rfl, hhead⟩ | ⟨d, hlower, hinfix⟩)
    · cases cs with
      | nil => cases hhead
      | cons d ds => exact ⟨d, hhead, List.prefix_append ['\x27', d] ds |>.isInfix⟩
    · exact ⟨d, hlower, List.infix_cons hinfix⟩

/-! ### Written literals -/

/-- A quote or a backslash that is written bare has a small letter behind it, which is written bare
as well. -/
private theorem exists_isLower_of_bare {c : Char} {cs : List Char} (hmark : c = '\x27' ∨ c = '\\')
    (hbare : needsBackslash c cs = false) :
    ∃ d ds, cs = d :: ds ∧ d.isLower ∧ escapeChars cs = d :: escapeChars ds := by
  have hlower : cs.head?.any Char.isLower = true := by
    simpa [needsBackslash, hmark] using hbare
  cases cs with
  | nil => cases hlower
  | cons d ds =>
    have hd : needsBackslash d ds = false := needsBackslash_of_isLower hlower ds
    exact ⟨d, ds, rfl, hlower, by rw [escapeChars, if_neg (by simp [hd])]⟩

/-- **One character more.** It is passed, with its backslash if it has one, unless it is a line feed
or a bare quote. -/
theorem close?_escapeChars_cons (c : Char) (cs rest : List Char) :
    close? (escapeChars (c :: cs) ++ rest) =
      if c = '\n' then none
      else if c = '\x27' ∧ cs.head?.any Char.isLower then some (escapeChars cs ++ rest)
      else close? (escapeChars cs ++ rest) := by
  rw [escapeChars]
  cases hneeds : needsBackslash c cs with
  | true =>
    simp only [needsBackslash, Bool.and_eq_true, Bool.or_eq_true, decide_eq_true_eq,
      Bool.not_eq_true'] at hneeds
    obtain ⟨hmark, hlast⟩ := hneeds
    have hfeed : c ≠ '\n' := by rcases hmark with rfl | rfl <;> decide
    rw [if_pos rfl, List.cons_append, List.cons_append, close?_escape, if_neg hfeed,
      if_neg (by simp [hlast])]
  | false =>
    rw [if_neg Bool.false_ne_true, List.cons_append]
    by_cases hmark : c = '\x27' ∨ c = '\\'
    · obtain ⟨d, ds, rfl, hlower, hwritten⟩ := exists_isLower_of_bare hmark hneeds
      rcases hmark with rfl | rfl
      · rw [close?_quote, if_neg (by decide), if_pos ⟨rfl, hlower⟩]
      · rw [hwritten, List.cons_append, close?_bareBackslash hlower, if_neg (by decide),
          if_neg fun h => absurd h.1 (by decide)]
    · obtain ⟨hquote, hslash⟩ := not_or.1 hmark
      by_cases hfeed : c = '\n'
      · rw [hfeed, close?_lineFeed, if_pos rfl]
      · rw [close?_cons hslash hfeed hquote, if_neg hfeed, if_neg fun h => hquote h.1]

/-- **What has been written for a literal closes where it should** exactly if there is no line feed
in the literal and no quote in front of a small letter. -/
theorem close?_escapeChars (cs rest : List Char) :
    close? (escapeChars cs ++ '\x27' :: rest) = some rest ↔ '\n' ∉ cs ∧ ¬ HasBareQuote cs := by
  induction cs with
  | nil => simp [escapeChars, close?_quote, HasBareQuote]
  | cons c cs ih =>
    rw [close?_escapeChars_cons, hasBareQuote_cons]
    split
    · next hfeed => simp [hfeed]
    · next hfeed =>
      split
      · next hquote =>
        -- the constant closes here, before the quote that was meant to close it
        have hearly : escapeChars cs ++ '\x27' :: rest ≠ rest := by
          intro heq
          have hlength := congrArg List.length heq
          rw [List.length_append, List.length_cons] at hlength
          omega
        rw [Option.some.injEq]
        exact iff_of_false hearly fun h => h.2 (Or.inl hquote)
      · next hquote =>
        rw [ih, List.mem_cons, or_iff_right (Ne.symm hfeed), or_iff_right hquote]

/-- **The escaped literal is one character constant** between its quotes exactly if the literal holds
no line feed and no quote in front of a small letter. -/
theorem isConstant_escape_iff (literal : String) :
    IsConstant ("\x27" ++ escape literal ++ "\x27") ↔
      '\n' ∉ literal.toList ∧ ¬ HasBareQuote literal.toList := by
  have htext : ("\x27" ++ escape literal ++ "\x27").toList =
      '\x27' :: (escapeChars literal.toList ++ ['\x27']) := by
    simp [escape]
  rw [IsConstant, htext, ← close?_escapeChars literal.toList []]
  constructor
  · rintro ⟨cs, heq, hclose⟩
    rwa [(List.cons.inj heq).2]
  · intro hclose
    exact ⟨_, rfl, hclose⟩

end ScanCodes.Artifact.Source
