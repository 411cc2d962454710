import Mathlib.Algebra.Group.Nat.Defs
import Mathlib.Data.List.Basic
import Mathlib.Tactic.Common
import Scrobbler.Program.Views
import Scrobbler.Proofs.Http.Delivery
import Scrobbler.Proofs.Json.Canonical

/-!
Ranks in tables of statistics. The rank of an entry is its place after the offset that the server reports,
which may be any word of 64 bits. There is a table as long as the last rank is a word; beyond, the program
panics instead of showing one.
-/

namespace Scrobbler

/-- What a row of a table of statistics shows, the rank as a number. -/
def StatRow.cells (row : StatRow) : Nat × String × String × UInt64 :=
  (row.rank.toNat, row.name, row.artist, row.listens)

/-- What the row of a statistic is to show under a number. -/
def EntityStat.cells (entity : Entity) (number : Nat) (s : EntityStat) : Nat × String × String × UInt64 :=
  (number, s.nameOf entity, if entity = .artist then "" else s.artistName, s.listenCount)

namespace Rows

section

variable {entity : Entity} {entries : List EntityStat} {offset rank : UInt64} {place : Nat}
  {rows : List StatRow}

/-- A rank that is given is the number of its place after the offset, with neither sum cut short. -/
theorem rank?_eq_some_iff : rank? offset place = some rank ↔ offset.toNat + place + 1 = rank.toNat := by
  rw [rank?, Option.bind_eq_some_iff]
  constructor
  · intro ⟨before, hBefore, hRank⟩
    rw [Word.add?_eq_some_iff] at hBefore hRank
    rw [hBefore, hRank]
  · intro hRank
    have hWord : offset.toNat + place < 2 ^ 64 := by
      have := rank.toNat_lt
      omega
    have hBefore : (UInt64.ofNat (offset.toNat + place)).toNat = offset.toNat + place :=
      UInt64.toNat_ofNat_of_lt' hWord
    refine ⟨UInt64.ofNat (offset.toNat + place), ?_, ?_⟩
    · rw [Word.add?_eq_some_iff, hBefore]
    · rw [Word.add?_eq_some_iff, hBefore]
      exact hRank

/-- An entry has a row if its rank is a word, and the row shows the entry under that rank. -/
theorem map_ofStat_eq_some_iff {s : EntityStat} {row : StatRow} :
    (rank? offset place).map (ofStat entity · s) = some row ↔
      row.cells = s.cells entity (offset.toNat + place + 1) := by
  rw [Option.map_eq_some_iff]
  constructor
  · rintro ⟨rank, hRank, rfl⟩
    rw [EntityStat.cells, rank?_eq_some_iff.mp hRank]
    rfl
  · intro hCells
    simp only [StatRow.cells, EntityStat.cells, Prod.mk.injEq] at hCells
    obtain ⟨hRank, hName, hArtist, hListens⟩ := hCells
    refine ⟨row.rank, rank?_eq_some_iff.mpr hRank.symm, ?_⟩
    rw [ofStat, ← hName, ← hArtist, ← hListens]

/-- The rows of the entries from a place on: entry by entry, each under its own number. -/
theorem mapM_zipIdx_eq_some_iff :
    ((entries.zipIdx place).mapM fun (s, place) => (rank? offset place).map (ofStat entity · s)) =
        some rows ↔
      rows.map StatRow.cells =
        (entries.zipIdx place).map fun (s, place) => s.cells entity (offset.toNat + place + 1) := by
  induction entries generalizing place rows with
  | nil => simp [eq_comm]
  | cons s rest ih =>
      rw [List.zipIdx_cons, List.mapM_cons, List.map_cons]
      cases rows with
      | nil => simp [Option.bind_eq_some_iff]
      | cons row rows =>
          rw [List.map_cons, List.cons.injEq, ← map_ofStat_eq_some_iff, ← ih]
          simp [Option.bind_eq_some_iff]

/-- A table that is given shows the entries in order, each under its number. -/
theorem ofStats_eq_some_iff :
    ofStats entity entries offset = some rows ↔
      rows.map StatRow.cells =
        entries.zipIdx.map fun (s, place) => s.cells entity (offset.toNat + place + 1) :=
  mapM_zipIdx_eq_some_iff

theorem length_of_ofStats (hRows : ofStats entity entries offset = some rows) :
    rows.length = entries.length := by
  simpa using congrArg List.length (ofStats_eq_some_iff.mp hRows)

/-- The rank of a row is the number of its place after the offset. -/
theorem rank_of_ofStats (hRows : ofStats entity entries offset = some rows) {k : Nat}
    (hPlace : k < rows.length) : rows[k].rank.toNat = offset.toNat + k + 1 := by
  have hEntry : k < entries.length := by
    rw [← length_of_ofStats hRows]
    exact hPlace
  have hCells := congrArg (·[k]?) (ofStats_eq_some_iff.mp hRows)
  simp only [List.getElem?_map, List.getElem?_eq_getElem hPlace, List.getElem?_zipIdx,
    List.getElem?_eq_getElem hEntry, Option.map_some, Option.some.injEq, Nat.zero_add] at hCells
  exact congrArg Prod.fst hCells

/-- Ranks go up from row to row. -/
theorem increasing_of_ofStats (hRows : ofStats entity entries offset = some rows) :
    rows.Pairwise fun earlier later => earlier.rank < later.rank := by
  rw [List.pairwise_iff_getElem]
  intro i j hi hj hLess
  rw [UInt64.lt_iff_toNat_lt, rank_of_ofStats hRows hi, rank_of_ofStats hRows hj]
  omega

variable (entity entries offset) in
/-- The last rank decides whether there is a table, since it is the greatest. -/
theorem exists_ofStats_iff :
    (∃ rows, ofStats entity entries offset = some rows) ↔ offset.toNat + entries.length < 2 ^ 64 := by
  constructor
  · intro ⟨rows, hRows⟩
    have hLength := length_of_ofStats hRows
    rcases Nat.eq_zero_or_pos entries.length with hNone | hSome
    · rw [hNone]
      exact offset.toNat_lt
    · have hPlace : entries.length - 1 < rows.length := by omega
      have hLast := rank_of_ofStats hRows hPlace
      have hWord := rows[entries.length - 1].rank.toNat_lt
      omega
  · intro hFits
    refine ⟨entries.zipIdx.map fun (s, place) =>
      ofStat entity (UInt64.ofNat (offset.toNat + place + 1)) s, ofStats_eq_some_iff.mpr ?_⟩
    rw [List.map_map]
    apply List.map_congr_left
    intro (s, place) hMem
    have hPlace : place < entries.length := by
      have := (List.mem_zipIdx hMem).2.1
      omega
    have hRank : (UInt64.ofNat (offset.toNat + place + 1)).toNat = offset.toNat + place + 1 :=
      UInt64.toNat_ofNat_of_lt' (show _ < 2 ^ 64 by omega)
    exact congrArg (fun number => s.cells entity number) hRank

variable (entity entries offset) in
/-- The program panics exactly if the last rank leaves the words of 64 bits. -/
theorem ofStats_eq_none_iff :
    ofStats entity entries offset = none ↔ 2 ^ 64 ≤ offset.toNat + entries.length := by
  rw [← Nat.not_lt, ← exists_ofStats_iff entity, Option.eq_none_iff_forall_ne_some, not_exists]

end

/-- The table of statistics for every reply and every kind of entity. There is a table exactly if the
offset and the number of entries add up to a word, and it has one row for each entry, in order, whose rank
is the number of its place after the offset; so ranks go up from row to row. Otherwise the program panics. -/
theorem ranks_of_reply_iff (t : TopEntities) (entity : Entity) :
    let entries := t.entities entity
    ((∃ rows, ofStats entity entries t.offset = some rows ∧
        rows.map (fun row => (row.rank.toNat, row.name, row.artist, row.listens)) =
          entries.zipIdx.map (fun (s, k) => (t.offset.toNat + k + 1, s.nameOf entity,
            if entity = .artist then "" else s.artistName, s.listenCount)) ∧
        rows.Pairwise fun earlier later => earlier.rank < later.rank) ↔
      t.offset.toNat + entries.length < 2 ^ 64) ∧
    (ofStats entity entries t.offset = none ↔ 2 ^ 64 ≤ t.offset.toNat + entries.length) := by
  intro entries
  refine ⟨?_, ofStats_eq_none_iff entity entries t.offset⟩
  rw [← exists_ofStats_iff entity entries t.offset]
  constructor
  · intro ⟨rows, hRows, _⟩
    exact ⟨rows, hRows⟩
  · intro ⟨rows, hRows⟩
    exact ⟨rows, hRows, ofStats_eq_some_iff.mp hRows, increasing_of_ofStats hRows⟩

/-- Not every reply has a table: with the greatest offset of 64 bits there is none for a single entry. -/
theorem not_forall_ranks_exact :
    ¬∀ (body : List UInt8) (t : TopEntities) (entity : Entity), TopEntities.decoder.runBytes body = .ok t →
      ∃ rows, ofStats entity (t.entities entity) t.offset = some rows ∧
        rows.map (·.rank.toNat) =
          (List.range (t.entities entity).length).map fun k => t.offset.toNat + k + 1 := by
  intro h
  let body := Text.Utf8.encode <|
    "\x7b\"payload\":\x7b\"user_id\":\"rob\",\"range\":\"week\",\"offset\":18446744073709551615," ++
      "\"artists\":[\x7b\"artist_name\":\"Portishead\",\"listen_count\":3\x7d]\x7d\x7d"
  have hRead : ((TopEntities.decoder.runBytes body).toOption.map fun t =>
      (t.offset, (t.entities .artist).length)) = some (18446744073709551615, 1) := by
    decide +kernel
  obtain ⟨t, hReply, hEntries⟩ := toOption_map_eq_some.mp hRead
  obtain ⟨hOffset, hLength⟩ := Prod.mk.inj hEntries
  obtain ⟨rows, hRows, -⟩ := h body t .artist hReply
  have hFits := (exists_ofStats_iff _ _ _).mp ⟨rows, hRows⟩
  rw [hOffset, hLength] at hFits
  exact absurd hFits (by decide)

end Rows

namespace Program

/-- Printing lines sends nothing. -/
theorem printAll_yields (lines : List String) : (printAll lines).Yields () := by
  induction lines with
  | nil => exact .done ()
  | cons line rest ih => exact ih.print

theorem done_yields (lines : List String) : (done lines).Yields 0 :=
  (printAll_yields lines).bind (.done 0)

/-- The program ends well after it has shown the statistics of a reply, and panics where their ranks leave
the words of 64 bits. -/
theorem showTop_yields (user : String) (entity : Entity) (range : StatsRange) (top : TopEntities) :
    (showTop user entity range top).Yields
      (if top.offset.toNat + (top.entities entity).length < 2 ^ 64 then 0 else 101) := by
  unfold showTop
  cases hEntries : top.entities entity with
  | nil =>
      have hFits : top.offset.toNat + ([] : List EntityStat).length < 2 ^ 64 := top.offset.toNat_lt
      rw [if_pos hFits]
      exact done_yields _
  | cons s rest =>
      apply Session.Yields.print
      cases hRows : Rows.ofStats entity (s :: rest) top.offset with
      | some rows =>
          rw [if_pos ((Rows.exists_ofStats_iff entity _ _).mp ⟨rows, hRows⟩)]
          exact done_yields _
      | none =>
          rw [if_neg (Nat.not_lt.mpr ((Rows.ofStats_eq_none_iff entity _ _).mp hRows))]
          exact .done 101

end Program

end Scrobbler
