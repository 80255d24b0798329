/-!
Arithmetic modulo a number. A power takes one squaring for each binary digit of its exponent, and so does
any other combination of many copies of one item.
-/

namespace ServiceHost.Tls

/-- As many copies of an item combined as a number says. -/
def copies (combine : α → α → α) (neutral item : α) (count : Nat) : α :=
  if count = 0 then neutral
  else
    let pairs := copies combine neutral (combine item item) (count / 2)
    if count % 2 = 1 then combine pairs item else pairs
termination_by count
decreasing_by omega

/-- A power modulo a number. -/
def powerMod (modulus base exponent : Nat) : Nat :=
  copies (fun first second => first * second % modulus) (1 % modulus) (base % modulus) exponent

/-- The inverse of a number modulo a prime. -/
def inverseMod (prime number : Nat) : Nat :=
  powerMod prime number (prime - 2)

example : powerMod 1000 3 200 = 1 := by decide +kernel

example : inverseMod 10007 1234 * 1234 % 10007 = 1 := by decide +kernel

end ServiceHost.Tls
