import SqlCluster.Text.Digit
/-!
Peers: the nodes of a cluster, each reached by a host and a port.
-/
namespace SqlCluster

structure Peer where
  host : String
  port : Nat
  deriving DecidableEq, Repr

namespace Peer

def defaultPort : Nat := 4001

def isValidPort (n : Int) : Bool := 0 < n && n < 65536

def addressChars (p : Peer) : List Char :=
  let host := p.host.toList
  (if host.contains ':' then '[' :: host ++ [']'] else host) ++ ':' :: Text.decimal p.port

def address (p : Peer) : String := String.ofList p.addressChars

def le (a b : Peer) : Bool :=
  a.host < b.host || (a.host == b.host && a.port ≤ b.port)

end Peer

/-- The first of each run of equal elements anywhere in the list, in order. -/
def distinct {α : Type} [DecidableEq α] : List α → List α
  | [] => []
  | x :: xs => x :: (distinct xs).filter (· ≠ x)

theorem mem_distinct {α : Type} [DecidableEq α] {a : α} {xs : List α} :
    a ∈ distinct xs ↔ a ∈ xs := by
  induction xs with
  | nil => simp [distinct]
  | cons x xs ih =>
      simp only [distinct, List.mem_cons, List.mem_filter, ih, decide_eq_true_eq]
      by_cases h : a = x <;> simp [h]

theorem nodup_distinct {α : Type} [DecidableEq α] (xs : List α) : (distinct xs).Nodup := by
  induction xs with
  | nil => simp [distinct]
  | cons x xs ih =>
      simp only [distinct, List.nodup_cons, List.mem_filter, decide_eq_true_eq]
      exact ⟨fun h => h.2 rfl, ih.filter _⟩

end SqlCluster
