/-!
# Durations

A length of time in nanoseconds, and its text: a number with as many decimals as it needs, in the greatest of the units
`s`, `ms`, `µs` and `ns` in which it is at least one.
-/
namespace PasskeyConsent

structure Duration where
  nanos : Nat
deriving DecidableEq, Repr, Inhabited

namespace Duration

def ofMillis (ms : Nat) : Duration := ⟨ms * 1000000⟩

def ofSeconds (s : Nat) : Duration := ⟨s * 1000000000⟩

def millis (d : Duration) : Nat := d.nanos / 1000000

/-- `n / 10^places` without trailing zeros. -/
def decimal (places n : Nat) : String :=
  let unit := Nat.pow 10 places
  let ds := Nat.toDigits 10 (n % unit)
  let padded := List.replicate (places - ds.length) '0' ++ ds
  let kept := (padded.reverse.dropWhile (· = '0')).reverse
  toString (n / unit) ++ (if n % unit = 0 then "" else "." ++ String.ofList kept)

def text (d : Duration) : String :=
  if 1000000000 ≤ d.nanos then decimal 9 d.nanos ++ "s"
  else if 1000000 ≤ d.nanos then decimal 6 d.nanos ++ "ms"
  else if 1000 ≤ d.nanos then decimal 3 d.nanos ++ "µs"
  else toString d.nanos ++ "ns"

end Duration
end PasskeyConsent
