/-!
White space: the characters with the Unicode property `White_Space`, and texts without them at
either end.
-/

namespace Attestation.Text

def isBlank (c : Char) : Bool :=
  let n := c.toNat
  (9 ≤ n && n ≤ 13) || n == 0x20 || n == 0x85 || n == 0xA0 || n == 0x1680 ||
    (0x2000 ≤ n && n ≤ 0x200A) || n == 0x2028 || n == 0x2029 || n == 0x202F || n == 0x205F ||
    n == 0x3000

/-- ASCII white space: space, tab, line feed, form feed and carriage return. -/
def isAsciiBlank (c : Char) : Bool :=
  c == ' ' || c == '\t' || c == '\n' || c == '\x0c' || c == '\r'

def dropEnd (p : Char → Bool) (cs : List Char) : List Char :=
  (cs.reverse.dropWhile p).reverse

def trim (cs : List Char) : List Char :=
  dropEnd isBlank (cs.dropWhile isBlank)

theorem length_trim_le (cs : List Char) : (trim cs).length ≤ cs.length := by
  have h₁ := (List.dropWhile_sublist isBlank (l := cs)).length_le
  have h₂ := (List.dropWhile_sublist isBlank (l := (cs.dropWhile isBlank).reverse)).length_le
  simp only [trim, dropEnd, List.length_reverse] at *
  omega

end Attestation.Text
