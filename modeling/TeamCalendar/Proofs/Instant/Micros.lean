import TeamCalendar.Instant.Micros

/-!
# Instants in microseconds

A count of microseconds keeps an instant without a part below a microsecond, provided that it does
not belong to a leap second, which the count does not tell from the second that follows.

* `Instant.fitsWord_toMicros` says that the counts fit into 64 bits.
* `Instant.ofMicros?_toMicros` reads a count back.
* `Instant.toMicros_lt_toMicros_iff` says when counts are in the order of the instants.
-/

namespace TeamCalendar.Instant

variable {a b t : Instant}

/-- The instant belongs to a leap second. -/
def IsLeap (t : Instant) : Prop :=
  nanosPerSecond ≤ t.nano

instance (t : Instant) : Decidable t.IsLeap :=
  inferInstanceAs (Decidable (_ ≤ _))

/-- The instant `a` belongs to a leap second, and `b` is not as far in the second that follows. -/
def Overruns (a b : Instant) : Prop :=
  b.second = a.second + 1 ∧ nanosPerSecond + b.nano ≤ a.nano

instance (a b : Instant) : Decidable (a.Overruns b) :=
  inferInstanceAs (Decidable (_ ∧ _))

theorem Overruns.isLeap (h : a.Overruns b) : a.IsLeap :=
  Nat.le_trans (Nat.le_add_right _ _) h.2

/-- The count of an instant without a part below a microsecond is exact. -/
theorem toMicros_eq (hwhole : t.nano % 1000 = 0) :
    t.toMicros = (t.second - second2000) * 1000000 + (t.nano / 1000 : Nat) := by
  have hthousands : (t.second - second2000) * nanosPerSecond + t.nano =
      ((t.second - second2000) * 1000000 + (t.nano / 1000 : Nat)) * 1000 := by
    rw [nanosPerSecond]
    omega
  rw [toMicros, hthousands]
  exact Int.mul_tdiv_cancel _ (by decide)

theorem tdiv_bounds {bound micros : Int} (hlow : -bound * 1000 ≤ micros)
    (hhigh : micros < bound * 1000) :
    -bound ≤ Int.tdiv micros 1000 ∧ Int.tdiv micros 1000 < bound := by
  rcases Int.le_total 0 micros with hpos | hneg
  · rw [Int.tdiv_eq_ediv_of_nonneg hpos]
    omega
  · have hflip : Int.tdiv micros 1000 = -(-micros / 1000) := by
      rw [← Int.tdiv_eq_ediv_of_nonneg (Int.neg_nonneg_of_nonpos hneg), Int.neg_tdiv, Int.neg_neg]
    rw [hflip]
    omega

/-- The number can be written with 64 bits, of which one is the sign. -/
def FitsWord (n : Int) : Prop :=
  -9223372036854775808 ≤ n ∧ n < 9223372036854775808

/-- The counts of all instants fit into 64 bits. -/
theorem fitsWord_toMicros (t : Instant) : FitsWord t.toMicros := by
  obtain ⟨hfirst, hlast, hnano, -⟩ := t.admissible
  have hfirstSecond : firstSecond = -8334601228800 := by decide
  have hlastSecond : lastSecond = 8210266876799 := by decide
  rw [hfirstSecond] at hfirst
  rw [hlastSecond] at hlast
  rw [nanosPerSecond] at hnano
  rw [toMicros, nanosPerSecond, second2000]
  exact tdiv_bounds (by omega) (by omega)

theorem ofMicros?_add (second : Int) {micro : Nat} (hmicro : micro < 1000000) :
    ofMicros? ((second - second2000) * 1000000 + micro) = ofParts? second (1000 * micro) := by
  have hsecond : second2000 + ((second - second2000) * 1000000 + micro) / 1000000 = second := by
    omega
  have hrest : (((second - second2000) * 1000000 + micro) % 1000000).toNat = micro := by
    omega
  rw [ofMicros?, hsecond, hrest]

theorem ofParts?_self (t : Instant) : ofParts? t.second t.nano = some t :=
  dif_pos t.admissible

/-- A count is read back as the instant, or as the instant that is as far in the second after the
leap second. -/
theorem ofMicros?_toMicros (hwhole : t.nano % 1000 = 0) :
    ofMicros? t.toMicros =
      if t.IsLeap then ofParts? (t.second + 1) (t.nano - nanosPerSecond) else some t := by
  obtain ⟨-, -, hnano, -⟩ := t.admissible
  rw [nanosPerSecond] at hnano
  by_cases hleap : t.IsLeap
  · have hlarge : 1000000000 ≤ t.nano := hleap
    -- the count of a leap second runs on into the second that follows
    have hcount : t.toMicros =
        (t.second + 1 - second2000) * 1000000 + (t.nano / 1000 - 1000000 : Nat) := by
      rw [toMicros_eq hwhole]
      omega
    have hrest : 1000 * (t.nano / 1000 - 1000000) = t.nano - nanosPerSecond := by
      rw [nanosPerSecond]
      omega
    rw [if_pos hleap, hcount, ofMicros?_add _ (by omega), hrest]
  · have hsmall : t.nano < 1000000000 := Nat.lt_of_not_le hleap
    have hrest : 1000 * (t.nano / 1000) = t.nano := by omega
    rw [if_neg hleap, toMicros_eq hwhole, ofMicros?_add _ (by omega), hrest, ofParts?_self]

/-- A count is read back as the instant exactly if this does not belong to a leap second. -/
theorem ofMicros?_toMicros_eq_some_iff (hwhole : t.nano % 1000 = 0) :
    ofMicros? t.toMicros = some t ↔ ¬ t.IsLeap := by
  rw [ofMicros?_toMicros hwhole]
  by_cases hleap : t.IsLeap
  · refine iff_of_false (fun hsame => ?_) (not_not_intro hleap)
    rw [if_pos hleap, ofParts?] at hsame
    split at hsame
    · have hsecond : t.second + 1 = t.second := congrArg second (Option.some.inj hsame)
      omega
    · cases hsame
  · exact iff_of_true (if_neg hleap) hleap

/-- What becomes of an instant without a part below a microsecond. -/
theorem micros_read (hwhole : t.nano % 1000 = 0) :
    FitsWord t.toMicros ∧ (ofMicros? t.toMicros = some t ↔ ¬ t.IsLeap) ∧
      (t.IsLeap → ofMicros? t.toMicros =
        ofParts? (t.second + 1) (t.nano - nanosPerSecond)) := by
  refine ⟨t.fitsWord_toMicros, ofMicros?_toMicros_eq_some_iff hwhole, fun hleap => ?_⟩
  rw [ofMicros?_toMicros hwhole, if_pos hleap]

/-- The counts of instants are in the order of the instants, unless a leap second overruns the
second that follows. -/
theorem toMicros_lt_toMicros_iff (ha : a.nano % 1000 = 0) (hb : b.nano % 1000 = 0) (h : a < b) :
    a.toMicros < b.toMicros ↔ ¬ a.Overruns b := by
  obtain ⟨-, -, hnano, -⟩ := a.admissible
  rw [lt_def] at h
  rw [toMicros_eq ha, toMicros_eq hb, Overruns, nanosPerSecond] at *
  omega

end TeamCalendar.Instant
