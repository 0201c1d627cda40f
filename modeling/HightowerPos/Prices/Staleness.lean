import HightowerPos.Prices.Writes
import Mathlib.Data.List.Induction

/-!
# When a price was written last

An import inserts a row with the time, but leaves `updated_at` alone where it overwrites one; a sync
assigns it on both branches.  So the times stay true exactly as long as no import overwrites a row
of another second (`stamped_iff`).
-/

namespace HightowerPos.Pricing

open FabricPriceSync

/-! ## Histories -/

namespace Write

variable {S : Setup} {wr : Write} {db db' : Db} {writes writes' : List Write}

/-- What the write has written. -/
def written (S : Setup) (wr : Write) (db : Db) : List Entry :=
  match wr.run S db with
  | .ok _ => wr.entries S
  | .error _ => []

/-- The tables after the writes. -/
def afterAll (S : Setup) (writes : List Write) (db : Db) : Db :=
  writes.foldl (fun db wr ↦ wr.after S db) db

/-- What the writes have written. -/
def history (S : Setup) : List Write → Db → List Entry
  | [], _ => []
  | wr :: writes, db => wr.written S db ++ history S writes (wr.after S db)

theorem afterAll_append :
    afterAll S (writes ++ writes') db = afterAll S writes' (afterAll S writes db) :=
  List.foldl_append

theorem history_append :
    history S (writes ++ writes') db =
      history S writes db ++ history S writes' (afterAll S writes db) := by
  induction writes generalizing db with
  | nil => rfl
  | cons wr writes ih =>
      rw [List.cons_append, history, ih, history, List.append_assoc]
      rfl

/-- Nothing is written by a write that raises. -/
theorem after_or (S : Setup) (wr : Write) (db : Db) :
    (wr.after S db = db ∧ wr.written S db = []) ∨
      ∃ db', wr.run S db = .ok db' ∧ wr.after S db = db' ∧ wr.written S db = wr.entries S := by
  unfold after written
  cases wr.run S db with
  | error e => exact .inl ⟨rfl, rfl⟩
  | ok db' => exact .inr ⟨db', rfl, rfl, rfl⟩

end Write

/-! ## Times -/

section Times

variable {S : Setup} {wr : Write} {db db' : Db} {entries : List Entry}
  {prices : Table POSPrice POSPrice.sku}

/-- The times that were written, by SKU. -/
def times (entries : List Entry) : List (String × Time) :=
  entries.map fun e ↦ (e.1, e.2.2.timestamp)

theorem times_append {entries' : List Entry} :
    times (entries ++ entries') = times entries ++ times entries' := List.map_append

/-- `updated_at` of a row is the time of the last write that named its SKU. -/
def Stamped (db : Db) (entries : List Entry) : Prop :=
  ∀ p ∈ db.posPrices.rows, ∀ t ∈ lastValue (times entries) p.sku, p.updatedAt = t

instance : Decidable (Stamped db entries) :=
  inferInstanceAs (Decidable (∀ p ∈ db.posPrices.rows,
    ∀ t ∈ lastValue (times entries) p.sku, p.updatedAt = t))

/-- The write does not leave an old time behind: it is a sync, or the rows that it overwrites bear
the present time. -/
def Current (S : Setup) (wr : Write) (db : Db) : Prop :=
  match wr with
  | .importCsv .. => ∀ e ∈ wr.written S db, ∀ p, db.posPrices.get? e.1 = some p →
      p.updatedAt = e.2.2.timestamp
  | .syncOnce .. => True

/-- The times by SKU. -/
def stampMap : Table POSPrice POSPrice.sku → String → Option Time := column (·.updatedAt)

theorem stamped_iff_stampMap :
    Stamped db entries ↔
      ∀ sku, ∀ s ∈ stampMap db.posPrices sku, ∀ t ∈ lastValue (times entries) sku, s = t := by
  constructor
  · intro h sku s hs t ht
    obtain ⟨p, hp, rfl⟩ := Option.map_eq_some_iff.mp hs
    obtain ⟨hmem, rfl⟩ := Table.get?_eq_some_iff.mp hp
    exact h p hmem t ht
  · intro h p hp t ht
    exact h p.sku p.updatedAt (by rw [stampMap, column, Table.get?_of_mem hp]; rfl) t ht

/-- **A conflict in an import keeps the time of the row.** -/
theorem stampMap_import {now : Time} {sku : String} (rows : List (String × Cents))
    (prices : Table POSPrice POSPrice.sku) :
    stampMap (upsertAll csvConflict now rows prices) sku =
      (stampMap prices sku).or (lastValue (rows.map fun row ↦ (row.1, now.timestamp)) sku) := by
  induction rows generalizing prices with
  | nil => exact (Option.or_none).symm
  | cons row rows ih =>
      refine (ih (prices.upsert row.1 _ _)).trans ?_
      have hrow : stampMap (prices.upsert row.1 (newPrice row.2 now) (csvConflict row.2 now)) sku =
          (stampMap prices sku).or (if row.1 = sku then some now.timestamp else none) := by
        rw [stampMap, column, column, Table.get?_upsert]
        by_cases hsku : sku = row.1
        · subst hsku
          rw [if_pos rfl, if_pos rfl]
          cases prices.get? row.1 <;> rfl
        · rw [if_neg hsku, if_neg (Ne.symm hsku), Option.or_none]
      rw [hrow, List.map_cons, lastValue_cons, Option.or_assoc]
      congr 1
      cases hlast : lastValue (rows.map fun row ↦ (row.1, now.timestamp)) sku with
      | none => rw [Option.or_none, Option.none_or]
      | some t =>
          -- all the rows of a file are given one time
          obtain ⟨row', -, hrow'⟩ := List.mem_map.mp (mem_of_lastValue hlast)
          obtain ⟨-, rfl⟩ := Prod.mk.inj hrow'
          split <;> rfl

/-- A sync assigns the time on both branches. -/
theorem stampMap_sync {answer : FabricExchange} {clock : Nat → Time}
    (h : (Write.syncOnce answer clock).run S db = .ok db') :
    stampMap db'.posPrices = assign (stampMap db.posPrices)
      (times ((Write.syncOnce answer clock).entries S)) := by
  obtain ⟨⟨result, db₁⟩, hok, rfl⟩ := exists_of_map_ok h
  exact column_executeAll (g := fun _ now ↦ now.timestamp) (fun _ _ _ ↦ rfl) (fun _ _ _ ↦ rfl)
    (syncOnce_ok hok).1

theorem stampMap_importCsv {file : List UInt8} {filename importedBy : String} {maxRows : Int}
    {now : Time} (h : (Write.importCsv file filename importedBy maxRows now).run S db = .ok db')
    (sku : String) :
    stampMap db'.posPrices sku = (stampMap db.posPrices sku).or (lastValue
      (times ((Write.importCsv file filename importedBy maxRows now).entries S)) sku) := by
  obtain ⟨⟨result, db₁⟩, hok, rfl⟩ := exists_of_map_ok h
  obtain ⟨-, -, -, rfl⟩ := importCsv_ok hok
  rw [stampMap_import, times, Write.entries, List.map_map]
  rfl

/-- The rows of an import are given one time. -/
theorem lastValue_importCsv {file : List UInt8} {filename importedBy : String} {maxRows : Int}
    {now : Time} {e : Entry}
    (he : e ∈ (Write.importCsv file filename importedBy maxRows now).entries S) :
    lastValue (times ((Write.importCsv file filename importedBy maxRows now).entries S)) e.1 =
      some e.2.2.timestamp := by
  cases hlast : lastValue (times ((Write.importCsv file filename importedBy maxRows now).entries S))
      e.1 with
  | none =>
      exact absurd (List.mem_map_of_mem (List.mem_map_of_mem he)) (lastValue_eq_none_iff.mp hlast)
  | some t =>
      obtain ⟨e', he', ht⟩ := List.mem_map.mp (mem_of_lastValue hlast)
      obtain ⟨-, rfl⟩ := Prod.mk.inj ht
      obtain ⟨_, -, rfl⟩ := List.mem_map.mp he
      obtain ⟨_, -, rfl⟩ := List.mem_map.mp he'
      rfl

/-- **One write.** -/
theorem stamped_step (h : Stamped db entries) :
    Stamped (wr.after S db) (entries ++ wr.written S db) ↔ Current S wr db := by
  rcases Write.after_or S wr db with ⟨hafter, hwritten⟩ | ⟨db', hrun, hafter, hwritten⟩
  · rw [hafter, hwritten, List.append_nil]
    refine ⟨fun _ ↦ ?_, fun _ ↦ h⟩
    unfold Current
    split
    · rw [hwritten]
      exact fun e he ↦ absurd he List.not_mem_nil
    · trivial
  · rw [hafter, hwritten, stamped_iff_stampMap]
    rw [stamped_iff_stampMap] at h
    cases wr with
    | syncOnce answer clock =>
        refine ⟨fun _ ↦ trivial, fun _ sku s hs t ht ↦ ?_⟩
        rw [stampMap_sync hrun, assign_eq] at hs
        rw [times_append, lastValue_append] at ht
        cases hlast : lastValue (times ((Write.syncOnce answer clock).entries S)) sku with
        | none =>
            rw [hlast, Option.none_or] at hs ht
            exact h sku s hs t ht
        | some t' =>
            rw [hlast] at hs ht
            exact (Option.some.inj hs).symm.trans (Option.some.inj ht)
    | importCsv file filename importedBy maxRows now =>
        have hstamps := stampMap_importCsv hrun
        unfold Current
        rw [hwritten]
        constructor
        · intro h' e he p hp
          refine h' e.1 p.updatedAt ?_ e.2.2.timestamp ?_
          · rw [hstamps, stampMap, column, hp]
            rfl
          · rw [times_append, lastValue_append, lastValue_importCsv he]
            rfl
        · intro hcurrent sku s hs t ht
          rw [hstamps] at hs
          rw [times_append, lastValue_append] at ht
          cases hlast : lastValue
              (times ((Write.importCsv file filename importedBy maxRows now).entries S)) sku with
          | none =>
              rw [hlast, Option.or_none] at hs
              rw [hlast, Option.none_or] at ht
              exact h sku s hs t ht
          | some t' =>
              rw [hlast] at hs ht
              obtain rfl : t' = t := Option.some.inj ht
              cases hrow : stampMap db.posPrices sku with
              | none =>
                  rw [hrow] at hs
                  exact (Option.some.inj hs).symm
              | some s' =>
                  rw [hrow] at hs
                  obtain rfl : s' = s := Option.some.inj hs
                  obtain ⟨p, hp, rfl⟩ := Option.map_eq_some_iff.mp hrow
                  obtain ⟨e, he, hpair⟩ := List.mem_map.mp (mem_of_lastValue hlast)
                  obtain ⟨rfl, rfl⟩ := Prod.mk.inj hpair
                  exact hcurrent e he p hp

/-- **The times of the prices.**  Through any sequence of imports and syncs `updated_at` is the time
of the last write exactly if no import overwrites a row that bears another time than its own. -/
theorem stamped_iff (S : Setup) (db : Db) (writes : List Write) :
    (∀ past, past <+: writes → Stamped (Write.afterAll S past db) (Write.history S past db)) ↔
      ∀ past wr, past ++ [wr] <+: writes → Current S wr (Write.afterAll S past db) := by
  have hstep : ∀ past wr, Stamped (Write.afterAll S past db) (Write.history S past db) →
      (Stamped (Write.afterAll S (past ++ [wr]) db) (Write.history S (past ++ [wr]) db) ↔
        Current S wr (Write.afterAll S past db)) := by
    intro past wr h
    rw [Write.afterAll_append, Write.history_append]
    refine Iff.trans ?_ (stamped_step h)
    rw [Write.history, Write.history, List.append_nil]
    rfl
  constructor
  · intro h past wr hprefix
    exact (hstep past wr (h past ((List.prefix_append past [wr]).trans hprefix))).mp
      (h (past ++ [wr]) hprefix)
  · intro h past
    induction past using List.reverseRecOn with
    | nil => exact fun _ _ _ t ht ↦ nomatch ht
    | append_singleton past wr ih =>
        intro hprefix
        exact (hstep past wr (ih ((List.prefix_append past [wr]).trans hprefix))).mpr
          (h past wr hprefix)

/-- A file that is imported twice, one second apart. -/
def Write.again : List Write :=
  [.importCsv "sku,price\nmug,1\n".toUTF8.toList "upload.csv" "admin" 10 0,
    .importCsv "sku,price\nmug,2\n".toUTF8.toList "upload.csv" "admin" 10 1000000]

/-- The second import leaves the time of the first. -/
theorem overwritten_not_stamped :
    ¬ Stamped (Write.afterAll .sample Write.again (.sample (.sample .complete)))
      (Write.history .sample Write.again (.sample (.sample .complete))) := by
  decide +kernel

end Times

end HightowerPos.Pricing
