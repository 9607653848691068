import Mathlib.Algebra.Order.Ring.Nat
import Artillery.Random.Draw

/-!
# Ranges of draws

Whatever the words of the keystream are, a draw stays within its range.

## Key results

- `run_bind`, `run_pure`: how draws that follow one another run
- `below_lt`, `belowWide_lt`: a draw below a number lies below it
-/

namespace Artillery.Draw

/-- A draw that follows another one goes on with the words that are left. -/
theorem run_bind {α β : Type} (x : Draw α) (f : α → Draw β) (k : Keystream) :
    (x >>= f).run k = (f (x.run k).1).run (x.run k).2 := rfl

theorem run_pure {α : Type} (a : α) (k : Keystream) : (pure a : Draw α).run k = (a, k) := rfl

/-- The high half of the product of a number and a word lies below the number. -/
theorem belowBy_lt {bits n : Nat} {next : Draw Nat} (hn : 0 < n)
    (hnext : ∀ k, (next.run k).1 < 2 ^ bits) (attempts : Nat) (k : Keystream) :
    ((belowBy bits next n attempts).run k).1 < n := by
  induction attempts generalizing k with
  | zero => exact hn
  | succ attempts ih =>
    -- After the next word the draw either takes the high half of the product or tries again.
    show ((if _ then _ else _ : Draw Nat).run (next.run k).2).1 < n
    split
    · show ((next.run k).1 * n) >>> bits < n
      rw [Nat.shiftRight_eq_div_pow, Nat.div_lt_iff_lt_mul (Nat.two_pow_pos bits), Nat.mul_comm]
      exact (Nat.mul_lt_mul_left hn).2 (hnext k)
    · exact ih _

theorem below_lt {n : Nat} (hn : 0 < n) (k : Keystream) : ((below n hn).run k).1 < n :=
  belowBy_lt hn (fun k => (k.word k.position).toNat_lt) 256 k

theorem belowWide_lt {n : Nat} (hn : 0 < n) (k : Keystream) : ((belowWide n hn).run k).1 < n :=
  belowBy_lt hn (fun k => (doubleWord.run k).1.toNat_lt) 256 k

end Artillery.Draw
