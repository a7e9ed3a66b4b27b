/-!
# Byte strings

Byte strings are lists, so that what is hashed can be taken apart in a proof; the UTF-8 bytes of a text and the
lower-case hexadecimal form.

Bytes that come from elsewhere need not be UTF-8.  They are cut into characters and strays, where a stray is a byte that
begins no character, or the beginning of a character that does not go on.  What is shown of them has the character U+FFFD
for every stray; of the bytes of a text that is the text.
-/
namespace PasskeyConsent

abbrev Bytes := List UInt8

namespace Bytes

def ofText (s : String) : Bytes := s.toByteArray.data.toList

/-- Equal bytes come from equal texts. -/
theorem ofText_injective {s t : String} (h : ofText s = ofText t) : s = t := by
  have h' : s.toByteArray = t.toByteArray := by
    cases hs : s.toByteArray; cases ht : t.toByteArray
    simp only [ofText, hs, ht] at h
    exact congrArg ByteArray.mk (Array.toList_inj.1 h)
  exact String.toByteArray_inj.1 h'

def hexDigit (n : Nat) : Char := Char.ofNat (if n < 10 then 48 + n else 87 + n)

def toHex (bs : Bytes) : String :=
  String.ofList (bs.flatMap fun b => [hexDigit (b.toNat / 16), hexDigit (b.toNat % 16)])

def hexValue? (c : Char) : Option Nat :=
  if '0' ≤ c ∧ c ≤ '9' then some (c.toNat - 48)
  else if 'a' ≤ c ∧ c ≤ 'f' then some (c.toNat - 87)
  else if 'A' ≤ c ∧ c ≤ 'F' then some (c.toNat - 55)
  else none

def ofHexDigits : List Char → Option Bytes
  | [] => some []
  | [_] => none
  | a :: b :: rest =>
    match hexValue? a, hexValue? b with
    | some x, some y => (ofHexDigits rest).map (UInt8.ofNat (16 * x + y) :: ·)
    | _, _ => none

def ofHex? (s : String) : Option Bytes := ofHexDigits s.toList

/-- The eight bytes of a 64-bit number, least significant first. -/
def littleEndian64 (n : Nat) : Bytes := (List.range 8).map fun i => UInt8.ofNat (n / Nat.pow 256 i)

/-! ## Bytes that may be a text -/

/-- A character, or nothing for a stray. -/
abbrev Piece := Option Char

/-- A character of several bytes that has begun: its bits so far, from where to where the next byte can be, and how many
there are to come behind that. -/
structure Begun where
  bits : Nat
  low : Nat
  high : Nat
  more : Nat
deriving DecidableEq, Repr

/-- What a byte makes where no character has begun.  The second byte is bound where it could make a character that has a
shorter form, a surrogate, or one that is beyond the last. -/
def start (b : UInt8) : List Piece × Option Begun :=
  let n := b.toNat
  if n < 0x80 then ([some (Char.ofNat n)], none)
  else if n < 0xC2 then ([none], none)
  else if n < 0xE0 then ([], some ⟨n - 0xC0, 0x80, 0xBF, 0⟩)
  else if n < 0xF0 then
    ([], some ⟨n - 0xE0, if n = 0xE0 then 0xA0 else 0x80, if n = 0xED then 0x9F else 0xBF, 1⟩)
  else if n < 0xF5 then
    ([], some ⟨n - 0xF0, if n = 0xF0 then 0x90 else 0x80, if n = 0xF4 then 0x8F else 0xBF, 2⟩)
  else ([none], none)

/-- What a byte makes behind a character that may have begun. -/
def step : Option Begun → UInt8 → List Piece × Option Begun
  | none, b => start b
  | some g, b =>
    if g.low ≤ b.toNat ∧ b.toNat ≤ g.high then
      let bits := 64 * g.bits + (b.toNat - 0x80)
      match g.more with
      | 0 => ([some (Char.ofNat bits)], none)
      | more + 1 => ([], some ⟨bits, 0x80, 0xBF, more⟩)
    else (none :: (start b).1, (start b).2)

def piecesFrom : Option Begun → Bytes → List Piece
  | none, [] => []
  | some _, [] => [none]
  | begun, b :: rest => (step begun b).1 ++ piecesFrom (step begun b).2 rest

/-- The characters and strays of some bytes. -/
def pieces (bs : Bytes) : List Piece := piecesFrom none bs

/-- The text that bytes are shown as. -/
def shown (bs : Bytes) : String := String.ofList ((pieces bs).map fun p => p.getD (Char.ofNat 0xFFFD))

theorem ofText_eq (s : String) : ofText s = s.toList.flatMap String.utf8EncodeChar := by
  rw [ofText, ← String.utf8Encode_toList, List.utf8Encode]
  simp

theorem toNat_ofNat {n : Nat} (h : n < 256) : (UInt8.ofNat n).toNat = n := UInt8.toNat_ofNat_of_lt' h

section

variable {bits low high n : Nat} {rest : Bytes}

/-- The last byte of a character ends it. -/
theorem piecesFrom_last (hlow : low ≤ n + 128) (hhigh : n + 128 ≤ high) (hn : n < 64) :
    piecesFrom (some ⟨bits, low, high, 0⟩) (UInt8.ofNat (n + 128) :: rest) =
      some (Char.ofNat (64 * bits + n)) :: piecesFrom none rest := by
  rw [piecesFrom, step, toNat_ofNat (by omega), if_pos ⟨hlow, hhigh⟩, Nat.add_sub_cancel]
  rfl

/-- Any other byte behind the first goes on with the character. -/
theorem piecesFrom_more {more : Nat} (hlow : low ≤ n + 128) (hhigh : n + 128 ≤ high) (hn : n < 64) :
    piecesFrom (some ⟨bits, low, high, more + 1⟩) (UInt8.ofNat (n + 128) :: rest) =
      piecesFrom (some ⟨64 * bits + n, 0x80, 0xBF, more⟩) rest := by
  rw [piecesFrom, step, toNat_ofNat (by omega), if_pos ⟨hlow, hhigh⟩, Nat.add_sub_cancel]
  rfl

end

/-- **The bytes of a character are the character**, whatever follows them. -/
theorem piecesFrom_utf8EncodeChar (c : Char) (rest : Bytes) :
    piecesFrom none (String.utf8EncodeChar c ++ rest) = some c :: piecesFrom none rest := by
  have hvalid : c.val.toNat < 0xD800 ∨ 0xDFFF < c.val.toNat ∧ c.val.toNat < 0x110000 := c.valid
  have hc : Char.ofNat c.val.toNat = c := Char.ofNat_toNat c
  generalize hv : c.val.toNat = v at hvalid hc
  rw [String.utf8EncodeChar, hv]
  split
  · rw [List.singleton_append, piecesFrom, step, start, toNat_ofNat (by omega), if_pos (by omega), hc]
    rfl
  split
  · have hbits : 64 * (v / 64 % 32 + 192 - 192) + v % 64 = v := by omega
    rw [List.cons_append, List.singleton_append, piecesFrom, step, start, toNat_ofNat (by omega)]
    rw [if_neg (by omega), if_neg (by omega), if_pos (by omega), List.nil_append]
    rw [piecesFrom_last (by omega) (by omega) (by omega), hbits, hc]
  split
  · have hbits : 64 * (64 * (v / 4096 % 16 + 224 - 224) + v / 64 % 64) + v % 64 = v := by omega
    rw [List.cons_append, List.cons_append, List.singleton_append, piecesFrom, step, start, toNat_ofNat (by omega)]
    rw [if_neg (by omega), if_neg (by omega), if_neg (by omega), if_pos (by omega), List.nil_append]
    rw [piecesFrom_more (by split <;> omega) (by split <;> omega) (by omega)]
    rw [piecesFrom_last (by omega) (by omega) (by omega), hbits, hc]
  · have hbits : 64 * (64 * (64 * (v / 262144 % 8 + 240 - 240) + v / 4096 % 64) + v / 64 % 64) + v % 64 = v := by omega
    rw [List.cons_append, List.cons_append, List.cons_append, List.singleton_append, piecesFrom, step, start,
      toNat_ofNat (by omega)]
    rw [if_neg (by omega), if_neg (by omega), if_neg (by omega), if_neg (by omega), if_pos (by omega), List.nil_append]
    rw [piecesFrom_more (by split <;> omega) (by split <;> omega) (by omega)]
    rw [piecesFrom_more (by omega) (by omega) (by omega), piecesFrom_last (by omega) (by omega) (by omega), hbits, hc]

/-- **The bytes of a text are its characters.** -/
theorem pieces_ofText (s : String) : pieces (ofText s) = s.toList.map some := by
  rw [pieces, ofText_eq]
  induction s.toList with
  | nil => rfl
  | cons c cs ih => rw [List.flatMap_cons, piecesFrom_utf8EncodeChar, ih, List.map_cons]

/-- **The bytes of a text are shown as the text.** -/
@[simp] theorem shown_ofText (s : String) : shown (ofText s) = s := by
  rw [shown, pieces_ofText, List.map_map]
  exact (congrArg String.ofList (List.map_id _)).trans String.ofList_toList

-- a character that is broken off is one stray
example : shown [0xE2, 0x82, 0x41, 0xFF] = "\uFFFDA\uFFFD" := by decide

end Bytes
end PasskeyConsent
