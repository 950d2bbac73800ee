import Datebook.Preferences
import Datebook.Proofs.Field
import Datebook.Proofs.Time.Stamp
import Datebook.Rehearsal.Host

/-!
This module contains the verification of windows: both bounds of a window are canonical timestamps,
the end comes after the start, and the zone is a known one.
-/

namespace Datebook

namespace Zone

/--
Whether a name is the one that a zone is looked up by: the one given, or the default where it is blank.
-/
inductive IsChosen (zone : Value) (default : String) : String → Prop
  | given {s : String} (hzone : zone = .text s) (hsome : Text.strip s ≠ "")
      : IsChosen zone default (Text.strip s)
  | default (hnone : ∀ s, zone = .text s → Text.strip s = "") : IsChosen zone default default

theorem exists_isChosen (zone : Value) (default : String) : ∃ name, IsChosen zone default name := by
  by_cases h : ∃ s, zone = .text s ∧ Text.strip s ≠ ""
  . obtain ⟨s, hzone, hsome⟩ := h
    exact ⟨_, .given hzone hsome⟩
  . exact ⟨_, .default (by simpa using h)⟩

variable [Host]

theorem resolve_of_isChosen {zone : Value} {default name : String} (h : IsChosen zone default name)
    : resolve zone default
        = if isKnown name then .ok name else .error (.field (.unknownZone name)) := by
  unfold resolve
  cases h with
  | given hzone hsome =>
    subst hzone
    simp only [if_neg hsome]
  | default hnone =>
    cases zone with
    | text s => simp only [hnone s rfl, if_true]
    | _ => simp only [if_true]

theorem resolve_eq_ok {zone : Value} {default name : String}
    : resolve zone default = .ok name ↔ IsChosen zone default name ∧ isKnown name = true := by
  constructor
  . intro h
    obtain ⟨found, hfound⟩ := exists_isChosen zone default
    rw [resolve_of_isChosen hfound] at h
    split at h
    . next hknown =>
      injection h with h
      rw [← h]
      exact ⟨hfound, hknown⟩
    . cases h
  . rintro ⟨hchosen, hknown⟩
    rw [resolve_of_isChosen hchosen, if_pos hknown]

theorem isKnown_of_resolve {zone : Value} {default name : String} (h : resolve zone default = .ok name)
    : isKnown name = true :=
  (resolve_eq_ok.mp h).2

theorem resolve_failsOnly (zone : Value) (default : String)
    : FailsOnly Fault.IsRefusal (resolve zone default) := by
  obtain ⟨name, hname⟩ := exists_isChosen zone default
  rw [resolve_of_isChosen hname]
  split
  . simp
  . simp [Fault.IsRefusal]

theorem settled_eq_error {name : String} (h : Host.zone? name = none)
    : ∃ cause, settled name = .error cause := by
  unfold settled
  rw [h]
  dsimp only
  cases flaw? name with
  | none => exact ⟨_, rfl⟩
  | some flaw => exact ⟨_, rfl⟩

theorem settled_eq_ok {name : String} {zone : Zone} (h : Host.zone? name = some zone)
    : settled name = .ok zone := by
  unfold settled
  rw [h]

/--
Whether the offsets of a zone at the two midnights around an instant differ by less than a day.
-/
def IsSteadyAt (zone : Zone) (now : Instant) : Prop :=
  let today := zone.wallAt now / Instant.day
  (zone.offsetOfWall ((today + 1) * Instant.day)
    - zone.offsetOfWall (today * Instant.day)).natAbs < 86400

instance (zone : Zone) (now : Instant) : Decidable (zone.IsSteadyAt now) :=
  inferInstanceAs (Decidable (_ < _))

structure HasToday (zone : Zone) (now : Instant) : Prop where
  wall : Instant.isSupported (zone.wallAt now) = true
  tomorrow : Instant.isSupported ((zone.wallAt now / Instant.day + 1) * Instant.day) = true

end Zone

namespace Window

open Timestamp

/--
Whether a window lasts some time, between canonical timestamps, and its zone is known.
-/
structure IsProper [Host] (w : Window) : Prop where
  before : Before (.text w.start) (.text w.finish)
  known : Zone.isKnown w.zone = true

variable {w : Window}

theorem isAbsent_of_ofValue {v : Value} {t : Instant} (h : ofValue v = .ok t)
    : v.isAbsent = false := by
  cases v with
  | null => cases h
  | text s =>
    rw [Bool.eq_false_iff]
    intro habsent
    have hread : read s = .error .blank := by
      rw [read_eq, Text.trim_eq_nil_iff.mpr habsent]
    cases hread.symm.trans h
  | _ => rfl

theorem date_failsOnly {α : Type} (x : Except DateFault α)
    : FailsOnly Fault.IsRefusal (x.mapError .date) := by
  apply FailsOnly.mapError
  simp [Fault.IsRefusal]

theorem bound_eq_ok {v : Value} {fallback : Except Fault Instant} {t : Instant}
    : bound v fallback = .ok t ↔ ofValue v = .ok t ∨ v.isAbsent = true ∧ fallback = .ok t := by
  unfold bound
  cases habsent : v.isAbsent with
  | true =>
    -- What is absent cannot be read either, so the two ways to a bound exclude each other.
    have hread : ofValue v ≠ .ok t := by
      intro h
      rw [isAbsent_of_ofValue h] at habsent
      cases habsent
    simp [hread]
  | false => simp [Except.mapError_eq_ok]

theorem bound_failsOnly {v : Value} {fallback : Except Fault Instant}
    (h : FailsOnly Fault.IsRefusal fallback) : FailsOnly Fault.IsRefusal (bound v fallback) := by
  unfold bound
  split
  . exact h
  . apply date_failsOnly

theorem reach_eq_ok {t u : Int} {length : Length}
    : reach t length = .ok u ↔ t + length = u ∧ Instant.isSupported u = true := by
  rw [← supported?_eq_some]
  unfold reach
  split
  . next hnone => simp [hnone]
  . next hsome => simp [hsome]

theorem reach_failsOnly (start : Instant) (horizon : Length)
    : FailsOnly Fault.IsRefusal (reach start horizon) := by
  unfold reach
  split
  . simp [Fault.IsRefusal]
  . simp

theorem between_eq {start finish : Int} (hstart : Instant.isSupported start = true)
    (hfinish : Instant.isSupported finish = true) (zone : String)
    : between start finish zone
        = if Instant.floorMilli start < Instant.floorMilli finish
          then .ok ⟨Instant.stamp start, Instant.stamp finish, zone⟩
          else .error (.field (.order "timeMax")) := by
  unfold between
  rw [read_stamp hstart, read_stamp hfinish]
  simp only [Except.mapError_ok, bind, Except.bind]
  by_cases hlt : Instant.floorMilli start < Instant.floorMilli finish
  . rw [if_pos hlt, if_neg (Int.not_le.mpr hlt)]
  . rw [if_neg hlt, if_pos (Int.not_lt.mp hlt)]

theorem between_eq_ok {start finish : Int} {zone : String} (hstart : Instant.isSupported start = true)
    (hfinish : Instant.isSupported finish = true)
    : between start finish zone = .ok w
        ↔ Instant.floorMilli start < Instant.floorMilli finish
          ∧ w = ⟨Instant.stamp start, Instant.stamp finish, zone⟩ := by
  rw [between_eq hstart hfinish]
  split
  . next hlt => simp [hlt, eq_comm]
  . next hnlt => simp [hnlt]

theorem between_failsOnly (start finish : Instant) (zone : String)
    : FailsOnly Fault.IsRefusal (between start finish zone) := by
  unfold between
  apply FailsOnly.bind (date_failsOnly _)
  intro later _
  apply FailsOnly.bind (date_failsOnly _)
  intro earlier _
  split
  . simp [Fault.IsRefusal]
  . simp

/--
Whether an instant is the start of a window: the one given, or the present one if there is a horizon.
-/
inductive IsStart (start : Value) (horizon : Option Length) (now : Instant) : Instant → Prop
  | given {t : Instant} (hread : ofValue start = .ok t) : IsStart start horizon now t
  | present (habsent : start.isAbsent = true) (hhorizon : horizon.isSome = true)
      : IsStart start horizon now now

/--
Whether an instant is the end of a window that starts at `t`: the one given, or as far from the start
as the horizon if that lies in the supported years.
-/
inductive IsFinish (finish : Value) (horizon : Option Length) (t : Instant) : Instant → Prop
  | given {u : Instant} (hread : ofValue finish = .ok u) : IsFinish finish horizon t u
  | reached {length : Length} (habsent : finish.isAbsent = true) (hhorizon : horizon = some length)
      (hsupported : Instant.isSupported (t + length) = true) : IsFinish finish horizon t (t + length)

variable {start finish zone : Value} {default : String} {horizon : Option Length} {now : Int}

theorem isStart_iff {t : Instant}
    : bound start (match horizon with
        | none => .error (.date .windowStart)
        | some _ => .ok now) = .ok t
        ↔ IsStart start horizon now t := by
  rw [bound_eq_ok]
  constructor
  . rintro (hread | ⟨habsent, hnow⟩)
    . exact .given hread
    . cases horizon with
      | none => cases hnow
      | some length =>
        cases hnow
        exact .present habsent rfl
  . rintro (hread | ⟨habsent, hhorizon⟩)
    . exact .inl hread
    . obtain ⟨length, rfl⟩ := Option.isSome_iff_exists.mp hhorizon
      exact .inr ⟨habsent, rfl⟩

theorem isFinish_iff {t u : Int}
    : bound finish (match horizon with
        | none => .error (.date .windowEnd)
        | some length => reach t length) = .ok u
        ↔ IsFinish finish horizon t u := by
  rw [bound_eq_ok]
  constructor
  . rintro (hread | ⟨habsent, hreach⟩)
    . exact .given hread
    . cases horizon with
      | none => cases hreach
      | some length =>
        obtain ⟨rfl, hsupported⟩ := reach_eq_ok.mp hreach
        exact .reached habsent rfl hsupported
  . rintro (hread | ⟨habsent, rfl, hsupported⟩)
    . exact .inl hread
    . exact .inr ⟨habsent, reach_eq_ok.mpr ⟨rfl, hsupported⟩⟩

theorem IsStart.isSupported {t : Int} (h : IsStart start horizon now t)
    (hnow : Instant.isSupported now = true) : Instant.isSupported t = true := by
  cases h with
  | given hread => exact isSupported_of_ofValue hread
  | present habsent hhorizon => exact hnow

theorem IsFinish.isSupported {t u : Int} (h : IsFinish finish horizon t u)
    : Instant.isSupported u = true := by
  cases h with
  | given hread => exact isSupported_of_ofValue hread
  | reached habsent hhorizon hsupported => exact hsupported

theorem instant_of_ofMoment {m : Moment} {t : Int} (h : ofMoment m = .ok t)
    : t = m.wall - m.ahead * Instant.second := by
  unfold ofMoment at h
  split at h
  . cases h
  . next hsome =>
    injection h with h
    unfold Moment.instant? at hsome
    rw [supported?_eq_some] at hsome
    rw [← h, hsome.1]

/--
Both bounds of a day lie on whole seconds, and their offsets eat up less than the day between them.
-/
theorem floorMilli_lt {t u today ahead ahead' : Int}
    (ht : t = today * Instant.day - ahead * Instant.second)
    (hu : u = (today + 1) * Instant.day - ahead' * Instant.second)
    (h : (ahead' - ahead).natAbs < 86400) : Instant.floorMilli t < Instant.floorMilli u := by
  -- Cutting down to milliseconds changes nothing on whole seconds.
  show t - t % 1000 < u - u % 1000
  unfold Instant.day Instant.second at ht hu
  omega

theorem ofDay_eq_ok {zone : Zone} (hsteady : zone.IsSteadyAt now) (h : ofDay zone now = .ok w)
    : Before (.text w.start) (.text w.finish) ∧ w.zone = zone.name := by
  unfold ofDay at h
  dsimp only at h
  split at h
  . cases h
  . split at h
    . cases h
    . rw [Except.bind_eq_ok] at h
      obtain ⟨t, ht, h⟩ := h
      rw [Except.bind_eq_ok] at h
      obtain ⟨u, hu, h⟩ := h
      rw [Except.mapError_eq_ok] at ht hu
      injection h with h
      subst h
      refine ⟨⟨_, _, denotes_stamp (isSupported_of_ofMoment ht),
        denotes_stamp (isSupported_of_ofMoment hu), ?_⟩, rfl⟩
      unfold Zone.momentOfWall at ht hu
      exact floorMilli_lt (instant_of_ofMoment ht) (instant_of_ofMoment hu) hsteady

theorem ofDay_failsOnly (zone : Zone) (now : Instant) : FailsOnly Fault.IsLocal (ofDay zone now) := by
  unfold ofDay
  dsimp only
  split
  . simp [Fault.IsLocal, Fault.IsCrash]
  . split
    . simp [Fault.IsLocal, Fault.IsCrash]
    . apply FailsOnly.bind (date_failsOnly _).refusal_isLocal
      intro t _
      apply FailsOnly.bind (date_failsOnly _).refusal_isLocal
      simp

theorem ofDay_crashes {zone : Zone} : Crashes (ofDay zone now) ↔ ¬ zone.HasToday now := by
  have hrest {α : Type} {x : Except DateFault α} {f : α → Except Fault Window}
      (hf : ∀ a, ¬ Crashes (f a)) : ¬ Crashes (x.mapError .date >>= f) := by
    cases x with
    | error e => simp [bind, Except.bind, Fault.IsCrash]
    | ok a => exact hf a
  unfold ofDay
  dsimp only
  split
  . next hwall => simpa [Fault.IsCrash] using fun h : zone.HasToday now => by simp [h.wall] at hwall
  . next hwall =>
    split
    . next hnext =>
      simpa [Fault.IsCrash] using fun h : zone.HasToday now => by simp [h.tomorrow] at hnext
    . next hnext =>
      rw [iff_false_left (hrest fun t => hrest fun u => Crashes.ok _), not_not]
      exact ⟨by simpa using hwall, by simpa using hnext⟩

section

variable [Host]

theorem resolve_eq_ok_iff (hnow : Instant.isSupported now = true)
    : resolve start finish zone default horizon now = .ok w
        ↔ ∃ name t u, Zone.IsChosen zone default name ∧ Zone.isKnown name = true
            ∧ IsStart start horizon now t ∧ IsFinish finish horizon t u
            ∧ Instant.floorMilli t < Instant.floorMilli u
            ∧ w = ⟨Instant.stamp t, Instant.stamp u, name⟩ := by
  unfold resolve
  simp only [Except.bind_eq_ok, Zone.resolve_eq_ok]
  constructor
  . rintro ⟨name, ⟨hchosen, hknown⟩, t, ht, u, hu, h⟩
    have ht := isStart_iff.mp ht
    have hu := isFinish_iff.mp hu
    rw [between_eq_ok (ht.isSupported hnow) hu.isSupported] at h
    exact ⟨name, t, u, hchosen, hknown, ht, hu, h⟩
  . rintro ⟨name, t, u, hchosen, hknown, ht, hu, h⟩
    refine ⟨name, ⟨hchosen, hknown⟩, t, isStart_iff.mpr ht, u, isFinish_iff.mpr hu, ?_⟩
    rwa [between_eq_ok (ht.isSupported hnow) hu.isSupported]

theorem resolve_eq_ok (hnow : Instant.isSupported now = true)
    (h : resolve start finish zone default horizon now = .ok w) : w.IsProper := by
  obtain ⟨name, t, u, -, hknown, ht, hu, hlt, rfl⟩ := (resolve_eq_ok_iff hnow).mp h
  exact ⟨⟨_, _, denotes_stamp (ht.isSupported hnow), denotes_stamp hu.isSupported, hlt⟩, hknown⟩

theorem resolve_failsOnly
    : FailsOnly Fault.IsRefusal (resolve start finish zone default horizon now) := by
  unfold resolve
  apply FailsOnly.bind (Zone.resolve_failsOnly zone default)
  intro name _
  apply FailsOnly.bind
  . apply bound_failsOnly
    cases horizon with
    | none => simp [Fault.IsRefusal]
    | some length => simp
  . intro t _
    apply FailsOnly.bind
    . apply bound_failsOnly
      cases horizon with
      | none => simp [Fault.IsRefusal]
      | some length => apply reach_failsOnly
    . intro u _
      apply between_failsOnly

/--
There is a window exactly if its zone is known, each bound is given or can be taken from the horizon,
and the end is past the start when both are cut down to a millisecond. Its texts are the stamps of the
two bounds, in that order, and everything else is refused.
-/
theorem resolve_orders_bounds (hnow : Instant.isSupported now = true)
    : (∀ w, resolve start finish zone default horizon now = .ok w
        ↔ ∃ name t u, Zone.IsChosen zone default name ∧ Zone.isKnown name = true
            ∧ IsStart start horizon now t ∧ IsFinish finish horizon t u
            ∧ Instant.floorMilli t < Instant.floorMilli u
            ∧ w = ⟨Instant.stamp t, Instant.stamp u, name⟩)
      ∧ (∀ w, resolve start finish zone default horizon now = .ok w
        → Before (.text w.start) (.text w.finish))
      ∧ FailsOnly Fault.IsRefusal (resolve start finish zone default horizon now) :=
  ⟨fun _ => resolve_eq_ok_iff hnow, fun _ h => (resolve_eq_ok hnow h).before, resolve_failsOnly⟩

theorem today_eq_ok {name : String} (hsteady : ∀ zone ∈ Host.zone? name, zone.IsSteadyAt now)
    (h : today name now = .ok w) : w.IsProper := by
  unfold today at h
  split at h
  . cases h
  . next zone hzone =>
    unfold Zone.settled at hzone
    split at hzone
    . next found hfound =>
      injection hzone with hzone
      subst hzone
      obtain ⟨hbefore, hname⟩ := ofDay_eq_ok (hsteady found hfound) h
      refine ⟨hbefore, ?_⟩
      rw [hname, Host.zone?_name hfound, Zone.isKnown, hfound]
      rfl
    . split at hzone
      . cases hzone
      . cases hzone

theorem today_failsOnly (name : String) (now : Instant)
    : FailsOnly Fault.IsLocal (today name now) := by
  unfold today
  split
  . simp [Fault.IsLocal, Fault.IsCrash]
  . apply ofDay_failsOnly

theorem today_crashes {name : String}
    : Crashes (today name now) ↔ ∀ zone ∈ Host.zone? name, ¬ zone.HasToday now := by
  unfold today
  cases hzone : Host.zone? name with
  | none =>
    obtain ⟨cause, hcause⟩ := Zone.settled_eq_error hzone
    simp [hcause, Fault.IsCrash]
  | some zone =>
    rw [Zone.settled_eq_ok hzone]
    simp [ofDay_crashes]

end

section

open scoped Rehearsal

theorem resolve_orders_bounds_into_next_milli
    : Instant.isSupported 63891225000000000 = true
      ∧ ∃ w, resolve (.text "2025-08-20T10:00:00.0009+02:00") .null (.text " ") "UTC" (some 200)
            63891225000000000
          = .ok w
        ∧ w = ⟨"2025-08-20T08:00:00.000Z", "2025-08-20T08:00:00.001Z", "UTC"⟩
        ∧ Before (.text w.start) (.text w.finish) := by
  have hnow : Instant.isSupported 63891225000000000 = true := by decide
  have hread : ofValue (.text "2025-08-20T10:00:00.0009+02:00") = .ok 63891273600000900 := by
    decide +kernel
  obtain ⟨hiff, hbefore, -⟩ := @resolve_orders_bounds (.text "2025-08-20T10:00:00.0009+02:00") .null
    (.text " ") "UTC" (some 200) _ _ hnow
  have hchosen : Zone.IsChosen (.text " ") "UTC" "UTC" := .default (by rintro _ ⟨⟩; decide)
  have hknown : Zone.isKnown "UTC" = true := by decide
  have hfinish : IsFinish .null (some 200) 63891273600000900 63891273600001100 :=
    .reached rfl rfl (by decide)
  have hwindow := (hiff _).mpr ⟨_, _, _, hchosen, hknown, .given hread, hfinish, by decide, rfl⟩
  exact ⟨hnow, _, hwindow, by decide, hbefore _ hwindow⟩

end

end Window

theorem Preferences.listingWindow_eq_ok [Host] {prefs : Preferences} {params : Fields} {horizon : Length}
    {now : Int} {w : Window} (hnow : Instant.isSupported now = true)
    (h : prefs.listingWindow now params horizon = .ok w) : w.IsProper := by
  unfold listingWindow windowOf at h
  exact Window.resolve_eq_ok hnow h

end Datebook
