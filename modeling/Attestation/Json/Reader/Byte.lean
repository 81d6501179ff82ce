import Attestation.Json.Reader

/-!
Where reading a byte stops if there is none to be read. An array of bytes ends where the reading of
one more stops, so that the item there need not be written to its end. Texts are counted in the
bytes of UTF-8: a stop within a character is none.
-/

namespace Attestation.Json.Reader.Byte

/-- The text behind so many bytes. -/
def behind : Nat → List Char → Option (List Char)
  | 0, cs => some cs
  | _ + 1, [] => none
  | n + 1, c :: cs => if c.utf8Size ≤ n + 1 then behind (n + 1 - c.utf8Size) cs else none

/-- Reading a word stops behind the first byte that is not the word's. -/
def stopInWord : (word : List Char) → List Char → Option (List Char)
  | [], cs => some cs
  | _ :: _, [] => none
  | w :: word, c :: cs => if c = w then stopInWord word cs else behind 1 (c :: cs)

/-- Reading a text stops behind its closing quote, and behind what makes it no text: a control
character, an escape that there is not, four bytes that are no code, and behind a leading surrogate
the first byte that cannot begin the escape of its partner. -/
def stopInText : List Char → Option (List Char)
  | '"' :: r => some r
  | '\\' :: 'u' :: a :: b :: c :: d :: r =>
    match hex4? a b c d with
    | none => behind 4 (a :: b :: c :: d :: r)
    | some n =>
      if isLowSurrogate n then some r
      else if isHighSurrogate n then
        match r with
        | '\\' :: 'u' :: e :: f :: g :: h :: r =>
          match hex4? e f g h with
          | none => behind 4 (e :: f :: g :: h :: r)
          | some m => if isLowSurrogate m then stopInText r else some r
        | '\\' :: 'u' :: r => behind 4 r
        | '\\' :: r => behind 1 r
        | r => behind 1 r
      else stopInText r
  | '\\' :: 'u' :: r => behind 4 r
  | '\\' :: e :: r => if (simpleEscape? e).isSome then stopInText r else behind 1 (e :: r)
  | c :: r => if c.toNat < 0x20 then some r else stopInText r
  | [] => none

/-- The largest exponent, which 32 bits with a sign hold. -/
def largestExponent : Nat := Int32.maxValue.toNatClampNeg

/-- Digits are read as long as they are no larger an exponent. -/
def stopInExponent (exponent : Nat) : List Char → List Char
  | c :: cs =>
    if isDigit c then
      let more := 10 * exponent + digit c
      if more ≤ largestExponent then stopInExponent more cs else cs
    else c :: cs
  | [] => []

/-- Behind the mark of an exponent. An exponent that is too large stops the reading only where it
makes the number too large. -/
def stopBehindMark (isZero : Bool) (cs : List Char) : Option (List Char) :=
  let (negative, cs) := match cs with
    | '+' :: r => (false, r)
    | '-' :: r => (true, r)
    | r => (false, r)
  if (cs.head?.map isDigit).getD false then
    some (if isZero || negative then cs.dropWhile isDigit else stopInExponent 0 cs)
  else behind 1 cs

/-- Behind the digits of a number in front of its exponent. -/
def stopBehindDigits (isZero : Bool) : List Char → Option (List Char)
  | 'e' :: r => stopBehindMark isZero r
  | 'E' :: r => stopBehindMark isZero r
  | r => some r

/-- Reading a number stops behind it; but none of a zero and a digit behind it, or of a byte. -/
def stopInNumber (negative : Bool) (cs : List Char) : Option (List Char) :=
  let ds := cs.takeWhile isDigit
  let isZero := ds.all (· == '0')
  let rest := cs.dropWhile isDigit
  if ds.isEmpty then behind 1 cs
  else if ds.length > 1 && ds.head? == some '0' then none
  else
    match rest with
    | '.' :: r =>
      let fs := r.takeWhile isDigit
      if fs.isEmpty then some r
      else stopBehindDigits (isZero && fs.all (· == '0')) (r.dropWhile isDigit)
    | 'e' :: _ => stopBehindDigits isZero rest
    | 'E' :: _ => stopBehindDigits isZero rest
    | r => if !negative && natural ds < UInt8.size then none else some r

/-- Where reading a byte in front of a text stops, if it is none. -/
def stop : List Char → Option (List Char)
  | 'n' :: r => stopInWord ['u', 'l', 'l'] r
  | 't' :: r => stopInWord ['r', 'u', 'e'] r
  | 'f' :: r => stopInWord ['a', 'l', 's', 'e'] r
  | '"' :: r => stopInText r
  | '-' :: r => stopInNumber true r
  | c :: r => if isDigit c then stopInNumber false (c :: r) else none
  | [] => none

end Attestation.Json.Reader.Byte
