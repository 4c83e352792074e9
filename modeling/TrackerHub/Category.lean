/-! # Categories

The taxonomy of releases. A category is an id and a name; the thousand that an id falls into
decides its umbrella category. Ids from `customOffset` on are for categories of a tracker's own.
-/
namespace TrackerHub

structure Category where
  id : Int
  name : String
  deriving Repr, DecidableEq, Inhabited

namespace Category

/-- What is added to a tracker's own category number to keep it apart from the taxonomy. -/
def customOffset : Int := 100000

def other : Category := ⟨0, "Other"⟩

def taxonomy : List Category := [
  other, ⟨10, "Other/Misc"⟩, ⟨20, "Other/Hashed"⟩, ⟨1000, "Console"⟩, ⟨1010, "Console/NDS"⟩,
  ⟨1020, "Console/PSP"⟩, ⟨1030, "Console/Wii"⟩, ⟨1040, "Console/Xbox"⟩,
  ⟨1050, "Console/Xbox360"⟩, ⟨1060, "Console/Wiiware/V"⟩, ⟨1070, "Console/Xbox360 DLC"⟩,
  ⟨1080, "Console/PS3"⟩, ⟨1999, "Console/Other"⟩, ⟨1110, "Console/3DS"⟩,
  ⟨1120, "Console/PS Vita"⟩, ⟨1130, "Console/WiiU"⟩, ⟨1140, "Console/XboxOne"⟩,
  ⟨1180, "Console/PS4"⟩, ⟨2000, "Movies"⟩, ⟨2010, "Movies/Foreign"⟩, ⟨2020, "Movies/Other"⟩,
  ⟨2030, "Movies/SD"⟩, ⟨2040, "Movies/HD"⟩, ⟨2050, "Movies/3D"⟩, ⟨2060, "Movies/BluRay"⟩,
  ⟨2070, "Movies/DVD"⟩, ⟨2080, "Movies/WEBDL"⟩, ⟨3000, "Audio"⟩, ⟨3010, "Audio/MP3"⟩,
  ⟨3020, "Audio/Video"⟩, ⟨3030, "Audio/Audiobook"⟩, ⟨3040, "Audio/Lossless"⟩,
  ⟨3999, "Audio/Other"⟩, ⟨3060, "Audio/Foreign"⟩, ⟨4000, "PC"⟩, ⟨4010, "PC/0day"⟩,
  ⟨4020, "PC/ISO"⟩, ⟨4030, "PC/Mac"⟩, ⟨4040, "PC/Phone-Other"⟩, ⟨4050, "PC/Games"⟩,
  ⟨4060, "PC/Phone-IOS"⟩, ⟨4070, "PC/Phone-Android"⟩, ⟨5000, "TV"⟩, ⟨5010, "TV/WEB-DL"⟩,
  ⟨5020, "TV/Foreign"⟩, ⟨5030, "TV/SD"⟩, ⟨5040, "TV/HD"⟩, ⟨5999, "TV/Other"⟩, ⟨5060, "TV/Sport"⟩,
  ⟨5070, "TV/Anime"⟩, ⟨5080, "TV/Documentary"⟩, ⟨6000, "XXX"⟩, ⟨6010, "XXX/DVD"⟩,
  ⟨6020, "XXX/WMV"⟩, ⟨6030, "XXX/XviD"⟩, ⟨6040, "XXX/x264"⟩, ⟨6999, "XXX/Other"⟩,
  ⟨6060, "XXX/Imageset"⟩, ⟨6070, "XXX/Packs"⟩, ⟨7000, "Books"⟩, ⟨7010, "Books/Magazines"⟩,
  ⟨7020, "Books/Ebook"⟩, ⟨7030, "Books/Comics"⟩, ⟨7040, "Books/Technical"⟩,
  ⟨7060, "Books/Foreign"⟩, ⟨7999, "Books/Unknown"⟩]

/-- The umbrella categories of the thousands from zero on. -/
def umbrellas : List Category := [
  other, ⟨1000, "Console"⟩, ⟨2000, "Movies"⟩, ⟨3000, "Audio"⟩, ⟨4000, "PC"⟩, ⟨5000, "TV"⟩,
  ⟨6000, "XXX"⟩, ⟨7000, "Books"⟩]

/-- The umbrella category of the thousand that the id falls into. -/
def parent (c : Category) : Category :=
  if c.id < 0 ∨ 8000 ≤ c.id then other else umbrellas.getD (c.id / 1000).toNat other

def byName? (name : String) : Option Category := taxonomy.find? fun c => c.name == name

def byId? (id : Int) : Option Category := taxonomy.find? fun c => c.id == id

def withIds (ids : List Int) : List Category := taxonomy.filter fun c => ids.contains c.id

def sortById (cs : List Category) : List Category := cs.mergeSort fun a b => decide (a.id ≤ b.id)

def label (c : Category) : String := s!"{c.name} ({c.id})"

end Category

end TrackerHub
