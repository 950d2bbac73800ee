import Datebook.Time.Zone.Europe
import Datebook.Time.Zone.NorthAmerica
import Datebook.Time.Zone.Pacific
import Datebook.Time.Zone.SouthAmerica

/-!
This module contains a table of zones by name.
-/

namespace Datebook.Zone

def History.constant (hours : Int) : History := { initial := hours * 3600 }

/--
The histories of zones by name. Some zones have several names.
-/
def histories : List (String × History) :=
  [("UTC", .constant 0), ("GMT", .constant 0), ("Zulu", .constant 0), ("EST", .constant (-5)),
   ("Etc/GMT+5", .constant (-5)), ("Etc/GMT-14", .constant 14), ("Asia/Kolkata", .kolkata),
   ("Asia/Calcutta", .kolkata), ("Asia/Kathmandu", .kathmandu), ("Asia/Tokyo", .tokyo),
   ("Asia/Beirut", .beirut), ("Africa/Cairo", .cairo), ("Europe/Berlin", .berlin),
   ("America/New_York", .newYork), ("US/Pacific", .losAngeles), ("PST8PDT", .pacific),
   ("America/St_Johns", .stJohns), ("America/Havana", .havana),
   ("America/Argentina/Buenos_Aires", .buenosAires), ("America/Sao_Paulo", .saoPaulo),
   ("Australia/Lord_Howe", .lordHowe), ("Pacific/Apia", .apia),
   ("Pacific/Kiritimati", .kiritimati)]

def tabled? (name : String) : Option Zone :=
  (histories.lookup name).map fun history => history.toZone name

theorem name_of_tabled? {name : String} {zone : Zone} (h : tabled? name = some zone)
    : zone.name = name := by
  unfold tabled? at h
  rw [Option.map_eq_some_iff] at h
  obtain ⟨history, -, rfl⟩ := h
  rfl

theorem isNear_histories : ∀ entry ∈ histories, entry.2.isNear = true := by
  decide +kernel

theorem isNear_of_tabled? {name : String} {zone : Zone} (h : tabled? name = some zone)
    : zone.IsNear := by
  unfold tabled? at h
  rw [Option.map_eq_some_iff] at h
  obtain ⟨history, hlookup, rfl⟩ := h
  rw [List.lookup_eq_some_iff] at hlookup
  obtain ⟨before, after, heq, -⟩ := hlookup
  apply History.isNear_toZone
  apply isNear_histories (name, history)
  simp [heq]

end Datebook.Zone
