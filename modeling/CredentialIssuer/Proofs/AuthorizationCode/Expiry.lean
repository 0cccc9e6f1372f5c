import CredentialIssuer.AuthorizationCode

/-! When a code is expired, in exact nanoseconds. -/
namespace CredentialIssuer.AuthorizationCode

variable {expiry : TimeSpan} {now : Timestamp} {item : Item}

/-- A span that no timestamp can hold, or that leads to a time before the first one, is longer than
any code can be old. -/
theorem isExpired_iff (hnow : now.unixNanos ≤ Timestamp.maxUnixNanos)
    (hcreated : Timestamp.minUnixNanos ≤ item.createdAt.unixNanos) :
    isExpired expiry now item = true ↔
      item.createdAt.unixNanos + expiry.totalNanos < now.unixNanos := by
  simp only [isExpired, Bool.and_eq_true, decide_eq_true_eq]
  constructor
  · rintro ⟨-, hlimit⟩
    omega
  · intro hold
    have hspan : (expiry.totalNanos : Int) < Timestamp.maxUnixNanos - Timestamp.minUnixNanos := by
      omega
    have hseconds : expiry.seconds ≤ longestExpiry := by
      simp only [TimeSpan.totalNanos, Timestamp.maxUnixNanos, Timestamp.minUnixNanos,
        Timestamp.maxUnixSeconds, Timestamp.minUnixSeconds, Timestamp.nanosPerSecond] at hspan
      simp only [longestExpiry]
      omega
    exact ⟨⟨hseconds, by omega⟩, by omega⟩

/-- An item of the calendar is expired once more than the span has gone by since it was created,
neither at that very nanosecond nor, once it is, ever again not. -/
theorem expired_after_span (expiry : TimeSpan) (item : Item)
    (hcreated : Timestamp.minUnixNanos ≤ item.createdAt.unixNanos) :
    (∀ now : Timestamp, now.unixNanos ≤ Timestamp.maxUnixNanos →
      (isExpired expiry now item = true ↔
        item.createdAt.unixNanos + expiry.totalNanos < now.unixNanos)) ∧
    (∀ now : Timestamp, now.unixNanos = item.createdAt.unixNanos + expiry.totalNanos →
      isExpired expiry now item = false) ∧
    ∀ now later : Timestamp, now.unixNanos ≤ later.unixNanos →
      later.unixNanos ≤ Timestamp.maxUnixNanos → isExpired expiry now item = true →
      isExpired expiry later item = true := by
  refine ⟨fun now hnow => isExpired_iff hnow hcreated, ?_, ?_⟩
  · intro now heq
    simp only [isExpired, Bool.and_eq_false_iff, decide_eq_false_iff_not]
    exact .inr (by omega)
  · intro now later hle hlater hexpired
    rw [isExpired_iff (Int.le_trans hle hlater) hcreated] at hexpired
    rw [isExpired_iff hlater hcreated]
    exact Int.lt_of_lt_of_le hexpired hle

/-- The oldest item there is, read from a clock ahead of UTC. -/
private def sampleOldest : Item :=
  ⟨"hash", "resource", "app:back", ⟨Timestamp.minUnixNanos, 3600⟩⟩

private def sampleLatest : Timestamp := ⟨Timestamp.maxUnixNanos, 0⟩

/-- The longest span outlasts the calendar; the length of the calendar does so by no nanosecond. -/
theorem expired_after_span_calendar :
    isExpired ⟨2 ^ 64 - 1, 999999999, by decide, by decide⟩ sampleLatest sampleOldest = false ∧
      isExpired ⟨631107417599, 999999999, by decide, by decide⟩ sampleLatest sampleOldest = false ∧
      isExpired ⟨631107417599, 999999998, by decide, by decide⟩ sampleLatest sampleOldest =
        true := by
  have hcreated : Timestamp.minUnixNanos ≤ sampleOldest.createdAt.unixNanos := Int.le_refl _
  have hlatest : sampleLatest.unixNanos ≤ Timestamp.maxUnixNanos := Int.le_refl _
  refine ⟨?_, ?_, ?_⟩
  · rw [← Bool.not_eq_true, (expired_after_span _ _ hcreated).1 _ hlatest]
    decide
  · exact (expired_after_span _ _ hcreated).2.1 _ (by decide)
  · exact ((expired_after_span _ _ hcreated).1 _ hlatest).mpr (by decide)

end CredentialIssuer.AuthorizationCode
