import HightowerPos.Data.Binary64
import HightowerPos.Data.Numeral
import HightowerPos.Services.Till

/-!
# The till modals

`api/till.ts` and what `OpenTillModal` and `CloseTillModal` count.  A count is an exact integer; an
amount that is formatted is a number of binary64.  The table of denominations is the register's
own; the service has another (`Till.denominations`), and what the two add up to is compared here.
-/

namespace HightowerPos.Register

/-- An entry of `DENOMINATIONS`. -/
structure Denomination where
  key : String
  label : String
  cents : Cents
deriving Repr, DecidableEq

/-- `DENOMINATIONS`. -/
def denominations : List Denomination :=
  [⟨"hundred", "$100", 10000⟩, ⟨"fifty", "$50", 5000⟩, ⟨"twenty", "$20", 2000⟩,
    ⟨"ten", "$10", 1000⟩, ⟨"five", "$5", 500⟩, ⟨"one", "$1", 100⟩, ⟨"quarter", "25¢", 25⟩,
    ⟨"dime", "10¢", 10⟩, ⟨"nickel", "5¢", 5⟩, ⟨"penny", "1¢", 1⟩]

/-- `counts[key] ?? 0`. -/
def count (counts : Denominations) (key : String) : Int := (counts.lookup key).getD 0

/-- `denominationsToCents`.  `Math.trunc` leaves an integer as it is. -/
def denominationsToCents (counts : Denominations) : Cents :=
  denominations.foldl (fun total d ↦ total + max 0 (count counts d.key) * d.cents) 0

/-- `formatCents`, where `toLocaleString` groups as en-US.  `Math.abs` and `%` are exact, and the
quotient is rounded before it is truncated. -/
def formatCents (cents : Cents) : String :=
  let dollars := ⌊Binary64.nearest (cents.natAbs / 100)⌋₊
  let rem := cents.natAbs % 100
  let formatted := "$" ++ String.ofList (Numeral.grouped dollars) ++ "." ++
    String.ofList (Numeral.padded 2 rem)
  if cents < 0 then "-" ++ formatted else formatted

/-- `{ ...counts, [key]: n }`. -/
def assignCount (counts : Denominations) (key : String) (n : Int) : Denominations :=
  match counts with
  | [] => [(key, n)]
  | (k, m) :: rest => if k = key then (key, n) :: rest else (k, m) :: assignCount rest key n

/-- `setCount` of both modals, from what `parseInt` makes of the text; `none` is not finite. -/
def setCount (counts : Denominations) (key : String) (parsed : Option Int) : Denominations :=
  assignCount counts key (match parsed with
    | some n => if 0 ≤ n then n else 0
    | none => 0)

/-- The counts that the inputs of a modal, one for each denomination, can build. -/
inductive Entered : Denominations → Prop
  | nil : Entered []
  | set {counts : Denominations} {d : Denomination} (h : Entered counts) (hd : d ∈ denominations)
      (parsed : Option Int) : Entered (setCount counts d.key parsed)

/-- The total that `OpenTillModal` displays. -/
def openTotal (counts : Denominations) : Cents := denominationsToCents counts

/-- The variance that `CloseTillModal` displays: what is counted less what
`GET /api/till/current` expects, or 0 where no session is OPEN. -/
def closeVariance (current : Option Till.CurrentResponse) (counts : Denominations) : Cents :=
  denominationsToCents counts - (current.map (·.expectedClosingCents)).getD 0

/-! ## The two tables -/

/-- The tables have the same keys and values, in the same order. -/
theorem denominations_eq :
    denominations.map (fun d ↦ (d.key, d.cents)) = Till.denominations := rfl

theorem mem_of_lookup {counts : Denominations} {key : String} {n : Int}
    (h : counts.lookup key = some n) : (key, n) ∈ counts := by
  obtain ⟨l, r, rfl, -⟩ := List.lookup_eq_some_iff.mp h
  exact List.mem_append_right _ (.head _)

theorem key_mem {d : Denomination} (hd : d ∈ denominations) : d.key ∈ Till.denominationKeys := by
  unfold Till.denominationKeys
  rw [← denominations_eq, List.map_map]
  exact List.mem_map_of_mem hd

/-- The register's loop over a table with such keys and values, started at a total. -/
theorem foldl_counts (counts : Denominations) (l : List Denomination) (total : Cents) :
    l.foldl (fun total d ↦ total + max 0 (count counts d.key) * d.cents) total =
      total + (l.map fun d ↦ max 0 (count counts d.key) * d.cents).sum := by
  induction l generalizing total with
  | nil => simp
  | cons d l ih => rw [List.foldl_cons, ih, List.map_cons, List.sum_cons, add_assoc]

/-- What the service's loop makes of the register's table. -/
theorem sumCounts_eq_ok_iff (counts : Denominations) (l : List Denomination) (a : Cents) :
    Till.sumCounts counts (l.map fun d ↦ (d.key, d.cents)) = .ok a ↔
      (∀ d ∈ l, 0 ≤ count counts d.key) ∧
        a = (l.map fun d ↦ max 0 (count counts d.key) * d.cents).sum := by
  rw [Till.sumCounts_eq_ok_iff, List.forall_mem_map, List.map_map]
  refine and_congr_right fun hall ↦ ?_
  have hsum : (l.map fun d ↦ max 0 (count counts d.key) * d.cents) =
      l.map fun d ↦ count counts d.key * d.cents := by
    apply List.map_congr_left
    intro d hd
    have hcount : 0 ≤ count counts d.key := hall d hd
    rw [max_eq_right hcount]
  rw [hsum]
  exact eq_comm

/-- **What the service accepts**, and what it makes of it: the register's total. -/
theorem till_denominationsToCents_eq_ok_iff (counts : Denominations) (a : Cents) :
    Till.denominationsToCents counts = .ok a ↔
      (∀ kv ∈ counts, kv.1 ∈ Till.denominationKeys) ∧
        (∀ key n, counts.lookup key = some n → 0 ≤ n) ∧ a = denominationsToCents counts := by
  have hsum : denominationsToCents counts =
      (denominations.map fun d ↦ max 0 (count counts d.key) * d.cents).sum := by
    unfold denominationsToCents
    rw [foldl_counts, zero_add]
  unfold Till.denominationsToCents
  rw [hsum]
  cases hfind : counts.find? fun kv ↦ kv.1 ∉ Till.denominationKeys with
  | some kv =>
      refine ⟨nofun, fun h ↦ ?_⟩
      have hkv := List.find?_some hfind
      rw [decide_eq_true_eq] at hkv
      exact absurd (h.1 kv (List.mem_of_find?_eq_some hfind)) hkv
  | none =>
      have hknown (kv : String × Int) (hkv : kv ∈ counts) : kv.1 ∈ Till.denominationKeys := by
        simpa using List.find?_eq_none.mp hfind kv hkv
      show Till.sumCounts counts Till.denominations = .ok a ↔ _
      rw [← denominations_eq, sumCounts_eq_ok_iff]
      constructor
      · rintro ⟨hcounts, ha⟩
        refine ⟨hknown, fun key n hlookup ↦ ?_, ha⟩
        obtain ⟨d, hd, hkey⟩ : ∃ d ∈ denominations, d.key = key := by
          have hmem := hknown _ (mem_of_lookup hlookup)
          unfold Till.denominationKeys at hmem
          rw [← denominations_eq, List.map_map] at hmem
          exact List.mem_map.mp hmem
        have hnonneg := hcounts d hd
        unfold count at hnonneg
        rwa [hkey, hlookup] at hnonneg
      · rintro ⟨-, hcounts, ha⟩
        refine ⟨fun d hd ↦ ?_, ha⟩
        unfold count
        cases hlookup : counts.lookup d.key with
        | none => exact le_rfl
        | some n => exact hcounts _ n hlookup

/-- **The service rejects exactly the unknown keys and the negative counts.** -/
theorem till_denominationsToCents_error_iff (counts : Denominations) :
    (∃ e, Till.denominationsToCents counts = .error e) ↔
      (∃ kv ∈ counts, kv.1 ∉ Till.denominationKeys) ∨
        ∃ key n, counts.lookup key = some n ∧ n < 0 := by
  have haccepts := till_denominationsToCents_eq_ok_iff counts
  cases h : Till.denominationsToCents counts with
  | ok a =>
      obtain ⟨hknown, hcounts, -⟩ := (haccepts a).mp h
      refine ⟨nofun, ?_⟩
      rintro (⟨kv, hkv, hunknown⟩ | ⟨key, n, hlookup, hneg⟩)
      · exact absurd (hknown kv hkv) hunknown
      · exact absurd (hcounts key n hlookup) (not_le.mpr hneg)
  | error e =>
      refine ⟨fun _ ↦ ?_, fun _ ↦ ⟨e, rfl⟩⟩
      by_contra hnone
      push Not at hnone
      have hok := (haccepts _).mpr ⟨hnone.1, hnone.2, rfl⟩
      rw [h] at hok
      cases hok

/-! ## What the modals build -/

theorem keys_assignCount {counts : Denominations} {key : String} {n : Int} {kv : String × Int}
    (h : kv ∈ assignCount counts key n) : kv = (key, n) ∨ kv ∈ counts := by
  induction counts with
  | nil => exact .inl (List.mem_singleton.mp h)
  | cons head rest ih =>
      unfold assignCount at h
      split at h
      · exact (List.mem_cons.mp h).imp_right (.tail _)
      · rcases List.mem_cons.mp h with rfl | h
        · exact .inr (.head _)
        · exact (ih h).imp_right (.tail _)

/-- The counts of a modal are of denominations, and none is negative. -/
theorem Entered.mem {counts : Denominations} (h : Entered counts) {kv : String × Int}
    (hkv : kv ∈ counts) : kv.1 ∈ Till.denominationKeys ∧ 0 ≤ kv.2 := by
  induction h with
  | nil => cases hkv
  | @set counts d h hd parsed ih =>
      rcases keys_assignCount hkv with rfl | hkv
      · refine ⟨key_mem hd, ?_⟩
        dsimp only
        split
        · split
          · assumption
          · exact le_rfl
        · exact le_rfl
      · exact ih hkv

/-- **What a modal sends is accepted**, at the total that it displays. -/
theorem Entered.accepted {counts : Denominations} (h : Entered counts) :
    Till.denominationsToCents counts = .ok (denominationsToCents counts) :=
  (till_denominationsToCents_eq_ok_iff _ _).mpr ⟨fun _ hkv ↦ (h.mem hkv).1,
    fun _ _ hlookup ↦ (h.mem (mem_of_lookup hlookup)).2, rfl⟩

end HightowerPos.Register
