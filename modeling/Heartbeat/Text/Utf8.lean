/-!
# Byte offsets in UTF-8 text

A text is stored as UTF-8, where a character takes one to four bytes. Splitting a text at a byte
offset is only possible where a character begins.

* `utf8Length` : the number of bytes of a character list;
* `splitAtByte?` : split at a byte offset, `none` inside a character;
* `splitAtByte?_append` : splitting at the byte length of a prefix gives that prefix back.
-/

namespace Heartbeat.Text

def utf8Length (cs : List Char) : Nat :=
  cs.foldr (fun c n => c.utf8Size + n) 0

/-- Splits a character list at a byte offset of its UTF-8 encoding. The answer is `none` when
the offset falls inside a character or past the end. -/
def splitAtByte? : List Char → Nat → Option (List Char × List Char)
  | cs, 0 => some ([], cs)
  | [], _ + 1 => none
  | c :: cs, k + 1 =>
    if c.utf8Size ≤ k + 1 then
      (splitAtByte? cs (k + 1 - c.utf8Size)).map fun p => (c :: p.1, p.2)
    else
      none

theorem utf8Size_pos (c : Char) : 0 < c.utf8Size := by
  have := Char.utf8Size_pos c
  omega

theorem splitAtByte?_append (xs ys : List Char) :
    splitAtByte? (xs ++ ys) (utf8Length xs) = some (xs, ys) := by
  induction xs with
  | nil => simp [utf8Length, splitAtByte?]
  | cons c cs ih =>
    have hc := utf8Size_pos c
    have hlen : utf8Length (c :: cs) = (c.utf8Size - 1 + utf8Length cs) + 1 := by
      simp only [utf8Length, List.foldr_cons]
      omega
    rw [List.cons_append, hlen, splitAtByte?]
    have h1 : c.utf8Size ≤ c.utf8Size - 1 + utf8Length cs + 1 := by omega
    have h2 : c.utf8Size - 1 + utf8Length cs + 1 - c.utf8Size = utf8Length cs := by omega
    simp [h1, h2, ih]

end Heartbeat.Text
