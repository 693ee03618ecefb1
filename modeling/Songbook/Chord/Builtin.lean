import Songbook.Chord.Definition

/-!
# Builtin chords

The fingerings of common chords that need no definition.
-/

namespace Songbook.ChordDefinition

/-- One builtin chord. -/
def entry (name : String) (base : Nat) (rows : Vector Int strings) (difficulty : Difficulty) :
    ChordDefinition :=
  ⟨name, .builtin, difficulty, some (Fingering.ofRows base rows)⟩

/-- A muted string in the table. -/
abbrev x : Int := -1

/-- The builtin chords, in the order in which they are listed. -/
def builtins : List ChordDefinition :=
  [entry "C" 1 #v[x, 3, 2, 0, 1, 0] .easy,
   entry "C#" 4 #v[x, 1, 3, 3, 3, 1] .hard,
   entry "Db" 4 #v[x, 1, 3, 3, 3, 1] .hard,
   entry "D" 1 #v[x, x, 0, 2, 3, 2] .easy,
   entry "D#" 6 #v[x, 1, 3, 3, 3, 1] .hard,
   entry "Eb" 6 #v[x, 1, 3, 3, 3, 1] .hard,
   entry "E" 1 #v[0, 2, 2, 1, 0, 0] .easy,
   entry "F" 1 #v[1, 3, 3, 2, 1, 1] .hard,
   entry "F#" 2 #v[1, 3, 3, 2, 1, 1] .hard,
   entry "Gb" 2 #v[1, 3, 3, 2, 1, 1] .hard,
   entry "G" 1 #v[3, 2, 0, 0, 0, 3] .easy,
   entry "G#" 4 #v[1, 3, 3, 2, 1, 1] .hard,
   entry "Ab" 4 #v[1, 3, 3, 2, 1, 1] .hard,
   entry "A" 1 #v[x, 0, 2, 2, 2, 0] .easy,
   entry "A#" 1 #v[x, 1, 3, 3, 3, 1] .hard,
   entry "Bb" 1 #v[x, 1, 3, 3, 3, 1] .hard,
   entry "B" 2 #v[x, 1, 3, 3, 3, 1] .hard,
   entry "Cm" 3 #v[x, 1, 3, 3, 2, 1] .hard,
   entry "C#m" 4 #v[x, 1, 3, 3, 2, 1] .hard,
   entry "Dbm" 4 #v[x, 1, 3, 3, 2, 1] .hard,
   entry "Dm" 1 #v[x, x, 0, 2, 3, 1] .easy,
   entry "D#m" 6 #v[x, 1, 3, 3, 2, 1] .hard,
   entry "Ebm" 6 #v[x, 1, 3, 3, 2, 1] .hard,
   entry "Em" 1 #v[0, 2, 2, 0, 0, 0] .easy,
   entry "Fm" 1 #v[1, 3, 3, 1, 1, 1] .hard,
   entry "F#m" 2 #v[1, 3, 3, 1, 1, 1] .hard,
   entry "Gbm" 2 #v[1, 3, 3, 1, 1, 1] .hard,
   entry "Gm" 3 #v[1, 3, 3, 1, 1, 1] .hard,
   entry "G#m" 4 #v[1, 3, 3, 1, 1, 1] .hard,
   entry "Abm" 4 #v[1, 3, 3, 1, 1, 1] .hard,
   entry "Am" 1 #v[x, 0, 2, 2, 1, 0] .easy,
   entry "A#m" 1 #v[x, 1, 3, 3, 2, 1] .hard,
   entry "Bbm" 1 #v[x, 1, 3, 3, 2, 1] .hard,
   entry "Bm" 2 #v[x, 1, 3, 3, 2, 1] .hard,
   entry "C7" 1 #v[x, 3, 2, 3, 1, 0] .easy,
   entry "C#7" 4 #v[x, 1, 3, 1, 3, 1] .hard,
   entry "D7" 1 #v[x, x, 0, 2, 1, 2] .easy,
   entry "Eb7" 6 #v[x, 1, 3, 1, 3, 1] .hard,
   entry "E7" 1 #v[0, 2, 0, 1, 0, 0] .easy,
   entry "F7" 1 #v[1, 3, 1, 2, 1, 1] .hard,
   entry "F#7" 2 #v[1, 3, 1, 2, 1, 1] .hard,
   entry "G7" 1 #v[3, 2, 0, 0, 0, 1] .easy,
   entry "Ab7" 4 #v[1, 3, 1, 2, 1, 1] .hard,
   entry "A7" 1 #v[x, 0, 2, 0, 2, 0] .easy,
   entry "Bb7" 1 #v[x, 1, 3, 1, 3, 1] .hard,
   entry "B7" 1 #v[x, 2, 1, 2, 0, 2] .easy,
   entry "Cm7" 3 #v[x, 1, 3, 1, 2, 1] .hard,
   entry "C#m7" 4 #v[x, 1, 3, 1, 2, 1] .hard,
   entry "Dm7" 1 #v[x, x, 0, 2, 1, 1] .easy,
   entry "Em7" 1 #v[0, 2, 0, 0, 0, 0] .easy,
   entry "F#m7" 2 #v[1, 3, 1, 1, 1, 1] .hard,
   entry "Gm7" 3 #v[1, 3, 1, 1, 1, 1] .hard,
   entry "Am7" 1 #v[x, 0, 2, 0, 1, 0] .easy,
   entry "Bm7" 2 #v[x, 1, 3, 1, 2, 1] .hard,
   entry "Cmaj7" 1 #v[x, 3, 2, 0, 0, 0] .easy,
   entry "Dmaj7" 1 #v[x, x, 0, 2, 2, 2] .easy,
   entry "Emaj7" 1 #v[0, 2, 1, 1, 0, 0] .easy,
   entry "Fmaj7" 1 #v[x, x, 3, 2, 1, 0] .easy,
   entry "Gmaj7" 1 #v[3, 2, 0, 0, 0, 2] .easy,
   entry "Amaj7" 1 #v[x, 0, 2, 1, 2, 0] .easy,
   entry "Csus4" 1 #v[x, 3, 3, 0, 1, 1] .easy,
   entry "Dsus2" 1 #v[x, x, 0, 2, 3, 0] .easy,
   entry "Dsus4" 1 #v[x, x, 0, 2, 3, 3] .easy,
   entry "Esus4" 1 #v[0, 2, 2, 2, 0, 0] .easy,
   entry "Gsus4" 1 #v[3, 3, 0, 0, 1, 3] .easy,
   entry "Asus2" 1 #v[x, 0, 2, 2, 0, 0] .easy,
   entry "Asus4" 1 #v[x, 0, 2, 2, 3, 0] .easy,
   entry "Cadd9" 1 #v[x, 3, 2, 0, 3, 0] .easy,
   entry "C/G" 1 #v[3, 3, 2, 0, 1, 0] .easy,
   entry "D/F#" 1 #v[2, 0, 0, 2, 3, 2] .easy,
   entry "G/B" 1 #v[x, 2, 0, 0, 0, 3] .easy,
   entry "Bdim" 1 #v[x, 2, 3, 4, 3, x] .hard,
   entry "E9" 1 #v[0, 2, 0, 1, 0, 2] .hard,
   entry "A6" 1 #v[x, 0, 2, 2, 2, 2] .hard]

/-- The builtin chord of that very name. -/
def builtin? (name : String) : Option ChordDefinition :=
  builtins.find? (·.name == name)

theorem nodup_builtins : (builtins.map name).Nodup := by decide

theorem builtins_fit : ∀ d ∈ builtins, ∀ f ∈ d.fingering, f.fits diagramRows := by
  decide +kernel

end Songbook.ChordDefinition
