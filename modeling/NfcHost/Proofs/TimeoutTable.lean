import NfcHost.Duration

/-!
# The timeout table

What the index of a span in the controller's table of timeouts says of the span (`Duration.timeoutIndex_least`): no smaller
index would do, and beyond the table it is the last one. What the index stands for covers the whole microseconds of the span.
The span itself it covers but for one case, a span that ends within the microsecond behind an entry
(`Duration.timeoutIndex_covers_false`).
-/

namespace NfcHost.Duration

/-- The timeout that index `n` stands for: 100 microseconds, doubled with every step. -/
def table (n : Nat) : Duration := ⟨100 * Nat.pow 2 (n - 1) * 1000⟩

/-- An entry of the table is a number of whole microseconds. -/
theorem nanos_table (n : Nat) : (table n).nanos = tableMicros n * 1000 := by
  rw [table, tableMicros, Nat.shiftLeft_eq, Nat.pow_eq]

/-- The entries of the table grow. -/
theorem table_lt_table {m n : Nat} (hm : 1 ≤ m) (h : m < n) : (table m).nanos < (table n).nanos := by
  have hpow : 2 ^ (m - 1) < 2 ^ (n - 1) := Nat.pow_lt_pow_right (by decide) (by omega)
  simp only [table, Nat.pow_eq]
  omega

/-- Every entry behind the first is twice the one before. -/
theorem nanos_table_succ {n : Nat} (hn : 1 ≤ n) : (table (n + 1)).nanos = 2 * (table n).nanos := by
  obtain ⟨k, rfl⟩ : ∃ k, n = k + 1 := ⟨n - 1, by omega⟩
  simp only [table, Nat.pow_eq, Nat.add_sub_cancel, Nat.pow_succ]
  omega

/-- A number of microseconds covers those of a span if the span ends before the next one. -/
theorem micros_le_iff (d : Duration) (n : Nat) : d.micros ≤ n ↔ d.nanos < n * 1000 + 1000 := by
  unfold micros
  omega

/-- The search for an index stops at the first one that covers the whole microseconds, or at the last one. -/
theorem timeoutIndex_search (d : Duration) :
    1 ≤ d.timeoutIndex.toNat ∧ d.timeoutIndex.toNat ≤ maxTimeoutIndex ∧
      (∀ n, 1 ≤ n → n < d.timeoutIndex.toNat → tableMicros n < d.micros) ∧
      (d.micros ≤ tableMicros d.timeoutIndex.toNat ∨ d.timeoutIndex.toNat = maxTimeoutIndex) := by
  have hbyte {n : Nat} (hn : n ≤ maxTimeoutIndex) : (UInt8.ofNat n).toNat = n :=
    UInt8.toNat_ofNat_of_lt' (Nat.lt_of_le_of_lt hn (by decide))
  simp only [timeoutIndex, List.find?_map]
  rcases hfind : (List.range maxTimeoutIndex).find? ((fun n => decide (d.micros ≤ tableMicros n)) ∘ (· + 1)) with _ | i
  · rw [List.find?_range_eq_none] at hfind
    rw [Option.map_none, Option.getD_none, hbyte (Nat.le_refl _)]
    refine ⟨by decide, Nat.le_refl _, fun n hn hlt => ?_, Or.inr rfl⟩
    have hno := hfind (n - 1) (by omega)
    simpa [Nat.sub_add_cancel hn] using hno
  · rw [List.find?_range_eq_some] at hfind
    obtain ⟨hyes, hi, hbefore⟩ := hfind
    have hi : i + 1 ≤ maxTimeoutIndex := List.mem_range.1 hi
    rw [Option.map_some, Option.getD_some, hbyte hi]
    refine ⟨by omega, hi, fun n hn hlt => ?_, Or.inl (by simpa using hyes)⟩
    have hno := hbefore (n - 1) (by omega)
    simpa [Nat.sub_add_cancel hn] using hno

/-- A smaller index would not do: the span is longer by a microsecond or more. -/
theorem table_smaller {d : Duration} {n : Nat} (hn : 1 ≤ n) (hlt : n < d.timeoutIndex.toNat) :
    (table n).nanos + 1000 ≤ d.nanos := by
  obtain ⟨-, -, hbefore, -⟩ := timeoutIndex_search d
  have hno := mt (micros_le_iff d (tableMicros n)).2 (Nat.not_le.2 (hbefore n hn hlt))
  rw [nanos_table]
  omega

/-- Unless the first index will do, the timeout of the index is less than twice the span: the one before is shorter. -/
theorem table_lt_double {d : Duration} (h : 1 < d.timeoutIndex.toNat) :
    (table d.timeoutIndex.toNat).nanos < 2 * d.nanos := by
  obtain ⟨n, hn⟩ : ∃ n, d.timeoutIndex.toNat = n + 1 := ⟨d.timeoutIndex.toNat - 1, by omega⟩
  have hbefore : (table n).nanos + 1000 ≤ d.nanos := table_smaller (by omega) (by omega)
  rw [hn, nanos_table_succ (by omega)]
  omega

/-- For a span within the table the timeout of the index is short by less than a microsecond, if at all. -/
theorem lt_table_add {d : Duration} (hwithin : d.nanos ≤ (table maxTimeoutIndex).nanos) :
    d.nanos < (table d.timeoutIndex.toNat).nanos + 1000 := by
  obtain ⟨-, -, -, hstop⟩ := timeoutIndex_search d
  rcases hstop with hstop | hlast
  · rw [nanos_table]
    exact (micros_le_iff d _).1 hstop
  · rw [hlast]
    omega

/-- It is short exactly if the span ends within the microsecond behind an entry. -/
theorem table_lt_iff {d : Duration} (hwithin : d.nanos ≤ (table maxTimeoutIndex).nanos) :
    (table d.timeoutIndex.toNat).nanos < d.nanos ↔
      ∃ n, 1 ≤ n ∧ n ≤ maxTimeoutIndex ∧ (table n).nanos < d.nanos ∧ d.nanos < (table n).nanos + 1000 := by
  obtain ⟨hpos, hmax, -, -⟩ := timeoutIndex_search d
  refine ⟨fun hshort => ⟨_, hpos, hmax, hshort, lt_table_add hwithin⟩, ?_⟩
  rintro ⟨n, hn, -, hlt, hend⟩
  rcases Nat.lt_trichotomy d.timeoutIndex.toNat n with h | h | h
  · exact Nat.lt_trans (table_lt_table hpos h) hlt
  · rw [h]
    exact hlt
  · have hshort := table_smaller hn h
    omega

/-- Beyond the table the index is the last one. -/
theorem timeoutIndex_beyond {d : Duration} (hbeyond : (table maxTimeoutIndex).nanos < d.nanos) :
    d.timeoutIndex.toNat = maxTimeoutIndex := by
  obtain ⟨hpos, hmax, -, hstop⟩ := timeoutIndex_search d
  rcases hstop with hstop | hlast
  · refine Nat.le_antisymm hmax (Nat.not_lt.1 fun hlt => ?_)
    have hnear := (micros_le_iff d _).1 hstop
    have hgrow := table_lt_table hpos hlt
    simp only [nanos_table] at hbeyond hgrow
    omega
  · exact hlast

/-- What the index of a span says. It is one of the table, and every smaller one stands for less than the span. For a span
within the table it covers the whole microseconds, and falls short of the span exactly if the span ends within the microsecond
behind an entry. Beyond the table it is the last one. -/
theorem timeoutIndex_least (d : Duration) :
    1 ≤ d.timeoutIndex.toNat ∧ d.timeoutIndex.toNat ≤ maxTimeoutIndex ∧
      (∀ n, 1 ≤ n → n < d.timeoutIndex.toNat → (table n).nanos < d.nanos) ∧
      (d.nanos ≤ (table maxTimeoutIndex).nanos →
        d.micros * 1000 ≤ (table d.timeoutIndex.toNat).nanos ∧
        ((table d.timeoutIndex.toNat).nanos < d.nanos ↔
          ∃ n, 1 ≤ n ∧ n ≤ maxTimeoutIndex ∧ (table n).nanos < d.nanos ∧ d.nanos < (table n).nanos + 1000)) ∧
      ((table maxTimeoutIndex).nanos < d.nanos → d.timeoutIndex.toNat = maxTimeoutIndex) := by
  obtain ⟨hpos, hmax, -, -⟩ := timeoutIndex_search d
  refine ⟨hpos, hmax, fun n hn hlt => ?_, fun hwithin => ⟨?_, table_lt_iff hwithin⟩, timeoutIndex_beyond⟩
  · have hshort := table_smaller hn hlt
    omega
  · have hnear := lt_table_add hwithin
    rw [nanos_table] at hnear ⊢
    have hmicros := (micros_le_iff d _).2 hnear
    omega

/-- That the timeout of the index covers the span is false, though the table has one that does: one nanosecond behind the
first entry the index is still the first. -/
theorem timeoutIndex_covers_false :
    ¬∀ d : Duration, d.nanos ≤ (table maxTimeoutIndex).nanos → d.nanos ≤ (table d.timeoutIndex.toNat).nanos := by
  intro h
  have hfirst : (Duration.mk 100001).timeoutIndex = 1 := by decide
  have hcovered := h ⟨100001⟩ (by decide)
  rw [hfirst] at hcovered
  exact absurd hcovered (by decide)

end NfcHost.Duration
