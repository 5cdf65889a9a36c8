import PairedAudio.Address
import Mathlib.Data.List.Sort

/-! The addresses of a host that clients can reach.

Sorting brings equal addresses together, so that leaving out what repeats its neighbour leaves every
address once. An increasing list is settled by what is in it: the result depends on which addresses the
interfaces have, and not on how they are listed.
-/

set_option autoImplicit false

namespace PairedAudio

section Repeats

variable {α : Type} [DecidableEq α] {xs : List α} {x : α}

@[simp]
theorem mem_dropRepeats : x ∈ dropRepeats xs ↔ x ∈ xs := by
  fun_induction dropRepeats xs with
  | case1 | case2 => rfl
  | case3 y rest ih => rw [ih]; simp
  | case4 y z rest _ ih => rw [List.mem_cons, ih, List.mem_cons (b := y)]

/-- In an order without ties, equal neighbours are the only repeats of a sorted list. -/
theorem pairwise_lt_dropRepeats {key : α → Nat} (injective : Function.Injective key)
    (sorted : xs.Pairwise fun x y => key x ≤ key y) :
    (dropRepeats xs).Pairwise fun x y => key x < key y := by
  fun_induction dropRepeats xs with
  | case1 => exact .nil
  | case2 x => exact List.pairwise_singleton _ x
  | case3 y rest ih => exact ih sorted.tail
  | case4 x y rest differ ih =>
    obtain ⟨le, sorted⟩ := List.pairwise_cons.mp sorted
    refine .cons (fun z among => ?_) (ih sorted)
    -- What is behind is no less than the neighbour, and the neighbour is greater.
    have greater : key x < key y :=
      Nat.lt_of_le_of_ne (le y List.mem_cons_self) fun same => differ (injective same)
    rcases List.mem_cons.mp (mem_dropRepeats.mp among) with rfl | behind
    · exact greater
    · exact Nat.lt_of_lt_of_le greater ((List.pairwise_cons.mp sorted).1 z behind)

end Repeats

namespace Ipv4

def parts (ip : Ipv4) : List UInt8 := [ip.a, ip.b, ip.c, ip.d]

theorem value_lt_iff (x y : Ipv4) : x.value < y.value ↔ x.parts < y.parts := by
  have := x.b.toNat_lt
  have := x.c.toNat_lt
  have := x.d.toNat_lt
  have := y.b.toNat_lt
  have := y.c.toNat_lt
  have := y.d.toNat_lt
  simp only [parts, List.cons_lt_cons_iff, List.not_lt_nil, and_false, or_false,
    UInt8.lt_iff_toNat_lt, ← UInt8.toNat_inj, value]
  omega

theorem value_injective : Function.Injective value := by
  rintro ⟨a, b, c, d⟩ ⟨a', b', c', d'⟩ same
  have := b.toNat_lt
  have := c.toNat_lt
  have := d.toNat_lt
  have := b'.toNat_lt
  have := c'.toNat_lt
  have := d'.toNat_lt
  simp only [value] at same
  rw [mk.injEq, ← UInt8.toNat_inj, ← UInt8.toNat_inj, ← UInt8.toNat_inj, ← UInt8.toNat_inj]
  omega

theorem eq_of_increasing {xs ys : List Ipv4} (first : xs.Pairwise fun x y => x.parts < y.parts)
    (second : ys.Pairwise fun x y => x.parts < y.parts) (same : ∀ ip, ip ∈ xs ↔ ip ∈ ys) : xs = ys := by
  simp only [← value_lt_iff] at first second
  have : Std.Irrefl fun x y : Ipv4 => x.value < y.value := ⟨fun x => Nat.lt_irrefl x.value⟩
  have : Std.Antisymm fun x y : Ipv4 => x.value < y.value :=
    ⟨fun x y less greater => absurd greater (Nat.lt_asymm less)⟩
  exact first.eq_of_mem_iff second same

end Ipv4

theorem InterfaceAddress.reachable?_eq_some_iff {address : InterfaceAddress} {ip : Ipv4} :
    address.reachable? = some ip ↔ address = v4 ip ∧ ip.a ≠ 127 ∧ ip ≠ ⟨0, 0, 0, 0⟩ := by
  cases address with
  | other text => exact iff_of_false nofun nofun
  | v4 other =>
    rw [reachable?, v4.injEq]
    constructor
    · intro reached
      split at reached
      · cases reached
      · rename_i passed
        cases reached
        simpa [Ipv4.isLoopback, Ipv4.isUnspecified] using passed
    · rintro ⟨rfl, outside, specified⟩
      simp [Ipv4.isLoopback, Ipv4.isUnspecified, outside, specified]

section Addresses

variable (addresses : List InterfaceAddress)

theorem mem_reachableIpv4 (ip : Ipv4) :
    ip ∈ reachableIpv4 addresses ↔ .v4 ip ∈ addresses ∧ ip.a ≠ 127 ∧ ip ≠ ⟨0, 0, 0, 0⟩ := by
  simp only [reachableIpv4, mem_dropRepeats, List.mem_mergeSort, List.mem_filterMap,
    InterfaceAddress.reachable?_eq_some_iff]
  constructor
  · rintro ⟨_, among, rfl, reached⟩
    exact ⟨among, reached⟩
  · rintro ⟨among, reached⟩
    exact ⟨_, among, rfl, reached⟩

theorem increasing_reachableIpv4 :
    (reachableIpv4 addresses).Pairwise fun x y => x.parts < y.parts := by
  have sorted : ((addresses.filterMap InterfaceAddress.reachable?).mergeSort
      fun x y => x.value ≤ y.value).Pairwise fun x y => decide (x.value ≤ y.value) = true :=
    List.pairwise_mergeSort (by simp; omega) (by simp; omega) _
  simp only [← Ipv4.value_lt_iff]
  exact pairwise_lt_dropRepeats Ipv4.value_injective (sorted.imp of_decide_eq_true)

theorem reachableIpv4_eq_of_mem_iff {addresses others : List InterfaceAddress}
    (same : ∀ ip, ip ∈ reachableIpv4 others ↔ ip ∈ reachableIpv4 addresses) :
    reachableIpv4 others = reachableIpv4 addresses :=
  Ipv4.eq_of_increasing (increasing_reachableIpv4 others) (increasing_reachableIpv4 addresses) same

/-- The reachable addresses are in increasing order of their parts, each once, and they are the IPv4
addresses among all but those of 127.0.0.0/8 and 0.0.0.0. So they are the same for all lists with the
same IPv4 addresses, and all of them are reachable again. -/
theorem reachable_canonical :
    ((reachableIpv4 addresses).Pairwise fun x y => x.parts < y.parts) ∧
    (∀ ip, ip ∈ reachableIpv4 addresses ↔ .v4 ip ∈ addresses ∧ ip.a ≠ 127 ∧ ip ≠ ⟨0, 0, 0, 0⟩) ∧
    (∀ others : List InterfaceAddress, (∀ ip, .v4 ip ∈ others ↔ .v4 ip ∈ addresses) →
      reachableIpv4 others = reachableIpv4 addresses) ∧
    reachableIpv4 ((reachableIpv4 addresses).map .v4) = reachableIpv4 addresses := by
  refine ⟨increasing_reachableIpv4 addresses, mem_reachableIpv4 addresses,
    fun others same => reachableIpv4_eq_of_mem_iff fun ip => ?_,
    reachableIpv4_eq_of_mem_iff fun ip => ?_⟩
  · rw [mem_reachableIpv4, mem_reachableIpv4, same ip]
  · -- Whatever is reachable has passed the test already.
    have kept : .v4 ip ∈ (reachableIpv4 addresses).map InterfaceAddress.v4 ↔
        ip ∈ reachableIpv4 addresses := List.mem_map_of_injective fun _ _ => InterfaceAddress.v4.inj
    rw [mem_reachableIpv4, kept, mem_reachableIpv4]
    exact ⟨And.left, fun reached => ⟨reached, reached.2⟩⟩

end Addresses

/-- An address twice and far apart, and in another order once. -/
theorem reachable_canonical_of_repeats :
    let near : Ipv4 := ⟨10, 0, 0, 5⟩
    let far : Ipv4 := ⟨192, 168, 1, 20⟩
    reachableIpv4 [.v4 far, .other "fe80::1", .v4 near, .v4 ⟨127, 0, 1, 1⟩, .v4 far] = [near, far] ∧
      reachableIpv4 [.v4 near, .v4 ⟨127, 0, 1, 1⟩, .v4 far] = [near, far] := by
  intro near far
  obtain ⟨increasing, reached, same, -⟩ := reachable_canonical [.v4 near, .v4 ⟨127, 0, 1, 1⟩, .v4 far]
  have listed : reachableIpv4 [.v4 near, .v4 ⟨127, 0, 1, 1⟩, .v4 far] = [near, far] := by
    refine Ipv4.eq_of_increasing increasing (by decide) fun ip => ?_
    rw [reached ip]
    constructor
    · rintro ⟨among, outside, -⟩
      simp only [List.mem_cons, InterfaceAddress.v4.injEq, List.not_mem_nil, or_false] at among ⊢
      rcases among with rfl | rfl | rfl
      · exact .inl rfl
      · exact absurd rfl outside
      · exact .inr rfl
    · intro among
      simp only [List.mem_cons, List.not_mem_nil, or_false] at among
      rcases among with rfl | rfl <;> simp [near, far]
  exact ⟨(same _ fun ip => by simp; tauto).trans listed, listed⟩

end PairedAudio
