import Datebook.Proofs.Time.Zone

/-!
This module contains the verification of the present day of a zone: its window holds the instants at
which the wall clocks show the date of today and no others, also where a change of the offset skips a
midnight, shows it twice, or leaves out a whole date.
-/

namespace Datebook

namespace Zone

def dateAt (zone : Zone) (t : Instant) : Date :=
  (ClockReading.ofMicros (zone.wallAt t)).date

def startOf (zone : Zone) (day : Int) : Instant :=
  day * Instant.day - zone.offsetOfWall (day * Instant.day) * Instant.second

/--
Whether the changes of a zone's offset leave its days in one piece: they are more than three days
apart, and among the readings that a change makes the clocks skip or show twice there is no midnight
but at the ends.
-/
structure KeepsDays (zone : Zone) : Prop where
  near : zone.IsNear
  apart : zone.changes.Pairwise fun change later => change.time + 3 * Instant.day < later.time
  midnights : ∀ change ∈ zone.changes, ∀ day : Int,
    ¬ (change.time + min (zone.offsetAt (change.time - 1)) change.offset * Instant.second
          < day * Instant.day
        ∧ day * Instant.day
          < change.time + max (zone.offsetAt (change.time - 1)) change.offset * Instant.second)

structure HasNeighbours (zone : Zone) (now : Instant) : Prop where
  yesterday : Instant.isSupported (zone.wallAt now - Instant.day) = true
  tomorrow : Instant.isSupported (zone.wallAt now + Instant.day) = true

section

variable {name : String} {current : Int} {change : Change} {rest : List Change} {zone : Zone}
  {now t : Int}

theorem offsetAt_cons
    : offsetAt ⟨name, current, change :: rest⟩ t
        = if change.time ≤ t then offsetAt ⟨name, change.offset, rest⟩ t else current := rfl

theorem offsetOfWall_cons {wall : Int}
    : offsetOfWall ⟨name, current, change :: rest⟩ wall
        = if change.time + max current change.offset * Instant.second ≤ wall
          then offsetOfWall ⟨name, change.offset, rest⟩ wall else current := rfl

theorem IsNear.natAbs_offsetAt_lt (h : zone.IsNear) (t : Instant)
    : (zone.offsetAt t).natAbs < 86400 :=
  natAbs_offsetAt_go_lt h.initial h.changes

theorem IsNear.natAbs_offsetOfWall_lt (h : zone.IsNear) (wall : Int)
    : (zone.offsetOfWall wall).natAbs < 86400 := by
  obtain ⟨name, initial, changes⟩ := zone
  induction changes generalizing initial with
  | nil => exact h.initial
  | cons change rest ih =>
    have hchanges := List.forall_mem_cons.mp h.changes
    rw [offsetOfWall_cons]
    split
    . exact ih change.offset ⟨hchanges.1, hchanges.2⟩
    . exact h.initial

theorem KeepsDays.tail (h : KeepsDays ⟨name, current, change :: rest⟩)
    : KeepsDays ⟨name, change.offset, rest⟩ := by
  obtain ⟨hfirst, hrest⟩ := List.pairwise_cons.mp h.apart
  obtain ⟨hchange, hchanges⟩ := List.forall_mem_cons.mp h.near.changes
  refine ⟨⟨hchange, hchanges⟩, hrest, ?_⟩
  intro later hlater
  have hmidnights := h.midnights later (List.mem_cons_of_mem change hlater)
  have hpast : change.time ≤ later.time - 1 := by
    have hapart := hfirst later hlater
    unfold Instant.day Instant.second at hapart
    unfold Instant at *
    omega
  rwa [offsetAt_cons, if_pos hpast] at hmidnights

theorem KeepsDays.lt_time (h : KeepsDays ⟨name, current, change :: rest⟩) (ht : t < change.time)
    : ∀ later ∈ change :: rest, t < later.time := by
  rw [List.forall_mem_cons]
  refine ⟨ht, ?_⟩
  intro later hlater
  have hapart := (List.pairwise_cons.mp h.apart).1 later hlater
  unfold Instant.day Instant.second at hapart
  omega

theorem wallAt_of_lt {initial : Int} {changes : List Change} (h : ∀ change ∈ changes, t < change.time)
    : wallAt ⟨name, initial, changes⟩ t = t + initial * Instant.second := by
  unfold wallAt
  cases changes with
  | nil => rfl
  | cons change rest => rw [offsetAt_cons, if_neg (Int.not_le.mpr (h change List.mem_cons_self))]

theorem wallAt_of_le (h : change.time ≤ t)
    : wallAt ⟨name, current, change :: rest⟩ t = wallAt ⟨name, change.offset, rest⟩ t := by
  unfold wallAt
  rw [offsetAt_cons, if_pos h]

/--
The wall clocks do not fall back behind what they showed right after a change: before another change
could set them back, they have gone on for longer than it can.
-/
theorem KeepsDays.le_wallAt (h : KeepsDays ⟨name, current, change :: rest⟩) (ht : change.time ≤ t)
    : change.time + change.offset * Instant.second ≤ wallAt ⟨name, change.offset, rest⟩ t := by
  have hoffset : change.offset.natAbs < 86400 := h.tail.near.initial
  have hnear := h.tail.near.natAbs_offsetAt_lt t
  cases rest with
  | nil =>
    rw [wallAt_of_lt (List.forall_mem_nil _)]
    unfold Instant at *
    omega
  | cons later rest =>
    have hapart := (List.pairwise_cons.mp h.apart).1 later List.mem_cons_self
    by_cases hlater : later.time ≤ t
    . unfold wallAt Instant.day Instant.second at *
      unfold Instant at *
      omega
    . unfold wallAt
      rw [offsetAt_cons, if_neg hlater]
      unfold Instant at *
      omega

theorem KeepsDays.startOf_le_iff (h : zone.KeepsDays) (day : Int) (t : Instant)
    : zone.startOf day ≤ t ↔ day * Instant.day ≤ zone.wallAt t := by
  obtain ⟨name, current, changes⟩ := zone
  unfold startOf
  induction changes generalizing current with
  | nil =>
    rw [wallAt_of_lt (List.forall_mem_nil _)]
    show day * Instant.day - current * Instant.second ≤ t ↔ _
    unfold Instant at *
    omega
  | cons change rest ih =>
    rw [offsetOfWall_cons]
    by_cases hwall : change.time + max current change.offset * Instant.second ≤ day * Instant.day
    . rw [if_pos hwall, ih change.offset h.tail]
      by_cases ht : change.time ≤ t
      . rw [wallAt_of_le ht]
      . -- The midnight comes after the change, so neither clock shows it before the change.
        have hbefore := h.lt_time (Int.not_le.mp ht)
        rw [wallAt_of_lt hbefore, wallAt_of_lt (List.forall_mem_cons.mp hbefore).2]
        unfold Instant.second at *
        unfold Instant at *
        omega
    . rw [if_neg hwall]
      have hmidnight : day * Instant.day
          ≤ change.time + min current change.offset * Instant.second := by
        have hmidnights := h.midnights change List.mem_cons_self day
        rw [offsetAt_cons, if_neg (Int.not_le.mpr (Int.sub_one_lt_of_le (Int.le_refl _)))]
          at hmidnights
        unfold Instant.second at *
        unfold Instant at *
        omega
      by_cases ht : change.time ≤ t
      . -- The clocks have shown the midnight before the change, and do not fall back behind it.
        have hle := h.le_wallAt ht
        rw [wallAt_of_le ht]
        unfold Instant.second at *
        unfold Instant at *
        omega
      . rw [wallAt_of_lt (h.lt_time (Int.not_le.mp ht))]
        unfold Instant at *
        omega

theorem HasNeighbours.today_bounds (h : zone.HasNeighbours now)
    : 1 ≤ zone.wallAt now / Instant.day ∧ zone.wallAt now / Instant.day + 1 < Date.count := by
  have hyesterday := Instant.isSupported_iff.mp h.yesterday
  have htomorrow := Instant.isSupported_iff.mp h.tomorrow
  unfold Instant.day Instant.second at *
  show _ ∧ _ < (3652059 : Int)
  omega

theorem HasNeighbours.hasToday (h : zone.HasNeighbours now) : zone.HasToday now := by
  have hyesterday := Instant.isSupported_iff.mp h.yesterday
  have htomorrow := Instant.isSupported_iff.mp h.tomorrow
  constructor
  . rw [Instant.isSupported_iff]
    unfold Instant.day Instant.second at *
    omega
  . rw [Instant.isSupported_iff]
    unfold Instant.day Instant.second at *
    omega

theorem IsNear.isSupported_startOf (h : zone.IsNear) {day : Int} (hfirst : 1 ≤ day)
    (hlast : day < Date.count) : Instant.isSupported (zone.startOf day) = true := by
  have hoffset := h.natAbs_offsetOfWall_lt (day * Instant.day)
  have hcount : (Date.count : Int) = 3652059 := rfl
  rw [Instant.isSupported_iff]
  unfold startOf Instant.day Instant.second at *
  omega

theorem ofMoment_midnight {day : Int} (h : Instant.isSupported (zone.startOf day) = true)
    : Timestamp.ofMoment (zone.momentOfWall (day * Instant.day)) = .ok (zone.startOf day) := by
  have hinstant : (zone.momentOfWall (day * Instant.day)).instant? = some (zone.startOf day) :=
    Timestamp.supported?_eq_some.mpr ⟨rfl, h⟩
  unfold Timestamp.ofMoment
  rw [hinstant]

theorem floorMilli_startOf (zone : Zone) (day : Int)
    : Instant.floorMilli (zone.startOf day) = zone.startOf day := by
  unfold Instant.floorMilli startOf Instant.day Instant.second
  unfold Instant at *
  omega

theorem denotes_startOf {day : Int} (h : Instant.isSupported (zone.startOf day) = true)
    : Timestamp.Denotes (.text (Instant.stamp (zone.startOf day))) (zone.startOf day) := by
  have hdenotes := Timestamp.denotes_stamp h
  rwa [floorMilli_startOf] at hdenotes

/--
After the first supported day, the clocks show one date exactly as long as they count one day.
-/
theorem dateAt_eq_iff (hfirst : 1 ≤ zone.wallAt now / Instant.day)
    : zone.dateAt t = zone.dateAt now
        ↔ zone.wallAt t / Instant.day = zone.wallAt now / Instant.day := by
  have hinj (n m : Nat) : Date.ofDays n = Date.ofDays m ↔ n = m := by
    refine ⟨?_, congrArg Date.ofDays⟩
    intro h
    rw [← Date.toDays_ofDays n, h, Date.toDays_ofDays]
  unfold dateAt ClockReading.ofMicros
  dsimp only
  rw [hinj]
  unfold Instant.day Instant.second at *
  omega

end

end Zone

namespace Window

open Timestamp

variable {zone : Zone} {now : Int}

theorem ofDay_eq (hnear : zone.IsNear) (h : zone.HasNeighbours now)
    : ofDay zone now
        = .ok ⟨Instant.stamp (zone.startOf (zone.wallAt now / Instant.day)),
            Instant.stamp (zone.startOf (zone.wallAt now / Instant.day + 1)), zone.name⟩ := by
  obtain ⟨hfirst, hlast⟩ := h.today_bounds
  have htoday := h.hasToday
  unfold ofDay
  dsimp only
  rw [htoday.wall, htoday.tomorrow,
    Zone.ofMoment_midnight (hnear.isSupported_startOf hfirst (by omega)),
    Zone.ofMoment_midnight (hnear.isSupported_startOf (by omega) hlast)]
  rfl

/--
Where the changes of a zone's offset leave its days in one piece, the window of the present day lasts
from a past instant to a later one, and holds exactly the instants at which the zone's clocks show the
same date as now.
-/
theorem ofDay_covers_today [Host] (hzone : zone.KeepsDays) (h : zone.HasNeighbours now)
    : ∃ w start finish, ofDay zone now = .ok w ∧ w.zone = zone.name
        ∧ (∀ name, Host.zone? name = some zone → today name now = .ok w)
        ∧ Denotes (.text w.start) start ∧ Denotes (.text w.finish) finish
        ∧ start ≤ now ∧ now < finish
        ∧ ∀ t, start ≤ t ∧ t < finish ↔ zone.dateAt t = zone.dateAt now := by
  obtain ⟨hfirst, hlast⟩ := h.today_bounds
  have hwindow := ofDay_eq hzone.near h
  have hcovers (t : Instant)
      : zone.startOf (zone.wallAt now / Instant.day) ≤ t
          ∧ t < zone.startOf (zone.wallAt now / Instant.day + 1)
          ↔ zone.dateAt t = zone.dateAt now := by
    rw [Zone.dateAt_eq_iff hfirst, ← Int.not_le, hzone.startOf_le_iff, hzone.startOf_le_iff]
    unfold Instant.day Instant.second
    omega
  refine ⟨_, _, _, hwindow, rfl, ?_,
    Zone.denotes_startOf (hzone.near.isSupported_startOf hfirst (by omega)),
    Zone.denotes_startOf (hzone.near.isSupported_startOf (by omega) hlast),
    ((hcovers now).mpr rfl).1, ((hcovers now).mpr rfl).2, hcovers⟩
  intro name hname
  unfold today Zone.settled
  rw [hname]
  exact hwindow

theorem not_midnight_between {a b : Int} (h : b ≤ (a / Instant.day + 1) * Instant.day) (day : Int)
    : ¬ (a < day * Instant.day ∧ day * Instant.day < b) := by
  unfold Instant.day Instant.second at *
  omega

def samoa : Zone := Zone.History.apia.toZone "Pacific/Apia"

theorem keepsDays_samoa : samoa.KeepsDays := by
  have hwhole : ∀ change ∈ samoa.changes,
      change.time + max (samoa.offsetAt (change.time - 1)) change.offset * Instant.second
        ≤ ((change.time + min (samoa.offsetAt (change.time - 1)) change.offset * Instant.second)
            / Instant.day + 1) * Instant.day := by
    decide +kernel
  exact ⟨⟨by decide, by decide +kernel⟩, by decide +kernel,
    fun change hchange => not_midnight_between (hwhole change hchange)⟩

section

open scoped Rehearsal

/--
On the eve of the date that Samoa left out, the day lasts until the clocks go on to the date after it.
-/
theorem ofDay_covers_eve_of_skipped_date
    : Host.zone? "Pacific/Apia" = some samoa ∧ samoa.KeepsDays
        ∧ samoa.HasNeighbours 63460828800000000
        ∧ ∃ w start finish, today "Pacific/Apia" 63460828800000000 = .ok w
          ∧ w = ⟨"2011-12-29T10:00:00.000Z", "2011-12-30T10:00:00.000Z", "Pacific/Apia"⟩
          ∧ Denotes (.text w.start) start ∧ Denotes (.text w.finish) finish
          ∧ ∀ t, start ≤ t ∧ t < finish ↔ samoa.dateAt t = ⟨2011, 12, 29⟩ := by
  have hname : Host.zone? "Pacific/Apia" = some samoa := by decide +kernel
  have hneighbours : samoa.HasNeighbours 63460828800000000 :=
    ⟨by decide +kernel, by decide +kernel⟩
  have hdate : samoa.dateAt 63460828800000000 = ⟨2011, 12, 29⟩ := by decide +kernel
  have htoday : today "Pacific/Apia" 63460828800000000
      = .ok ⟨"2011-12-29T10:00:00.000Z", "2011-12-30T10:00:00.000Z", "Pacific/Apia"⟩ := by
    decide +kernel
  obtain ⟨w, start, finish, -, -, hwindow, hstart, hfinish, -, -, hcovers⟩ :=
    ofDay_covers_today keepsDays_samoa hneighbours
  have hw := hwindow _ hname
  rw [hdate] at hcovers
  rw [htoday] at hw
  injection hw with hw
  exact ⟨hname, keepsDays_samoa, hneighbours, w, start, finish, hw ▸ htoday, hw.symm, hstart, hfinish,
    hcovers⟩

end

end Window

end Datebook
