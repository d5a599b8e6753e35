import Forex.Support.Nest

/-!
`db()`, the transaction block of every repository. Blocks of one thread share a
connection, and only the outermost of them commits or rolls back. What is in the
database is told by the writes that were carried out.
-/

namespace Forex
open Support
universe u
variable {ω : Type u}

/-- The connection that a thread keeps. -/
structure Conn (ω : Type u) where
  committed : List ω
  pending : List ω
  depth : ℕ

namespace Conn
variable (c : Conn ω)

/-- The exit of a block that was entered at this depth. -/
def leave (depth : ℕ) (raised : Bool) : Conn ω :=
  if depth = 1 then
    if raised then ⟨c.committed, [], depth - 1⟩ else ⟨c.committed ++ c.pending, [], depth - 1⟩
  else { c with depth := depth - 1 }

/-- Runs code; the flag says that an exception leaves it. -/
def exec {i : Bool} : Code ω i → Conn ω → Conn ω × Bool
  | .skip, c => (c, false)
  | .raise, c => (c, true)
  | .write w, c => ({ c with pending := c.pending ++ [w] }, false)
  | .seq p q, c =>
      let r := exec p c
      if r.2 then r else exec q r.1
  | .block p, c =>
      let depth := c.depth + 1
      let r := exec p { c with depth := depth }
      (r.1.leave depth r.2, r.2)
  | .guarded p handler, c =>
      let r := exec p c
      if r.2 then exec handler r.1 else r

/-- Inside a block nothing is committed and nothing undone. -/
theorem exec_inside (p : Code ω true) (c : Conn ω) (inside : 0 < c.depth) :
    exec p c = ({ c with pending := c.pending ++ p.remains }, p.raises) := by
  generalize within : true = i at p
  induction p generalizing c with
  | skip | raise | write _ => simp [exec, Code.remains, Code.raises]
  | seq p q ihp ihq =>
      rw [exec, ihp c inside within, Code.remains, Code.raises]
      cases p.raises with
      | true => simp
      | false =>
          dsimp only
          rw [if_neg Bool.false_ne_true,
            ihq { c with pending := c.pending ++ p.remains } inside within]
          simp
  | block p ih =>
      subst within
      rw [exec, ih { c with depth := c.depth + 1 } (Nat.succ_pos _) rfl, Code.remains, Code.raises]
      simp [leave, Nat.ne_of_gt inside]
  | guarded p handler ihp ihh =>
      rw [exec, ihp c inside within, Code.remains, Code.raises]
      cases p.raises with
      | false => simp
      | true =>
          dsimp only
          rw [if_pos rfl, ihh { c with pending := c.pending ++ p.remains } inside within]
          simp

/-- An outermost block commits all of its code or none of it. -/
theorem exec_outside (p : Code ω false) (committed : List ω) :
    exec p ⟨committed, [], 0⟩ = (⟨committed ++ p.remains, [], 0⟩, p.raises) := by
  generalize within : false = i at p
  induction p generalizing committed with
  | skip | raise =>
      subst within
      simp [exec, Code.remains, Code.raises]
  | write w => cases within
  | seq p q ihp ihq =>
      subst within
      rw [exec, ihp committed rfl, Code.remains, Code.raises]
      cases p.raises with
      | true => simp
      | false => simp [ihq]
  | block p ih =>
      subst within
      rw [exec, exec_inside p _ Nat.one_pos, Code.remains, Code.raises]
      cases p.raises <;> simp [leave]
  | guarded p handler ihp ihh =>
      subst within
      rw [exec, ihp committed rfl, Code.remains, Code.raises]
      cases p.raises with
      | false => simp
      | true => simp [ihh]

end Conn

/-- The database has gained the writes outside every block that an exception
left, and no others. -/
def AllOrNothing (p : Code ω false) : Prop :=
  ∀ committed : List ω, (Conn.exec p ⟨committed, [], 0⟩).1.committed = committed ++ p.kept

theorem allOrNothing_iff (p : Code ω false) : AllOrNothing p ↔ p.Tidy := by
  rw [← Code.remains_eq_kept_iff]
  constructor
  · intro all
    simpa [Conn.exec_outside] using all []
  · intro same committed
    rw [Conn.exec_outside, same]

end Forex
