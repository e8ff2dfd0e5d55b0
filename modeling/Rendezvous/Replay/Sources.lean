import Rendezvous.Store
import Rendezvous.Text.Quoted

/-!
# Sources of time and match ids

To replay a run the clock and the match ids have to be known beforehand.  The clock moves on by a
fixed step at each reading; match ids come from a list and are then numbered.  A server that is not
replayed draws its match ids at random.
-/

namespace Rendezvous.Replay

/-- A clock that moves on by itself at each reading. -/
structure Clock where
  /-- What the next reading gives. -/
  now : Float
  /-- What is added after a reading. -/
  step : Float

/-- The clock after `n` readings. -/
def Clock.afterReadings (c : Clock) : Nat → Clock
  | 0 => c
  | n + 1 => Clock.afterReadings { c with now := c.now + c.step } n

/-- The next `n` readings. -/
def Clock.readings (c : Clock) : Nat → List Float
  | 0 => []
  | n + 1 => c.now :: Clock.readings { c with now := c.now + c.step } n

/-- The clock after time has passed. -/
def Clock.advance (c : Clock) (seconds : Float) : Clock := { c with now := c.now + seconds }

/-- Match ids from a list, then `match-n` for the n-th id of all. -/
structure IdSource where
  /-- The ids that are left of the list. -/
  listed : List Text
  /-- How many ids were drawn. -/
  drawn : Nat := 0

/-- The id that is drawn next. -/
def IdSource.next (s : IdSource) : Text :=
  s.listed.headD ("match-" ++ Text.ofNat (s.drawn + 1))

/-- The source after `n` draws. -/
def IdSource.afterDraws (s : IdSource) (n : Nat) : IdSource := ⟨s.listed.drop n, s.drawn + n⟩

/-- All that a run takes from the world. -/
structure Sources where
  /-- The clock. -/
  clock : Clock
  /-- The match ids. -/
  ids : IdSource

/-- What the next operation takes. -/
def Sources.supply (s : Sources) : Supply :=
  { reading := fun n => (s.clock.afterReadings n).now
    newId := fun n => (s.ids.afterDraws n).next }

/-- The sources after so many readings and draws. -/
def Sources.after (s : Sources) (readings drawn : Nat) : Sources :=
  ⟨s.clock.afterReadings readings, s.ids.afterDraws drawn⟩

/-- The sources after time has passed. -/
def Sources.advance (s : Sources) (seconds : Float) : Sources :=
  { s with clock := s.clock.advance seconds }

end Rendezvous.Replay

namespace Rendezvous.MatchId

/-! ## Random match ids

A match id is a random number of 128 bits in the usual form: 32 lower-case hexadecimal digits in
groups of 8, 4, 4, 4 and 12.  Six bits are fixed: version 4 and the standard variant.
-/

/-- The low `width` hexadecimal digits of `n`. -/
def group (width n : Nat) : List Char := Text.hexDigits width n

/-- The id of a random number, of which 122 bits count. -/
def ofRandom (n : Nat) : List Char :=
  let version := 0x4000 + (n >>> 64) % 0x1000
  let variant := 0x8000 + (n >>> 48) % 0x4000
  group 8 (n >>> 96) ++ '-' :: group 4 (n >>> 80) ++ '-' :: group 4 version ++
    '-' :: group 4 variant ++ '-' :: group 12 n

/-- A lower-case hexadecimal digit. -/
def isHexDigit (c : Char) : Bool := c.isDigit || ('a' ≤ c && c ≤ 'f')

/-- Whether a text is an id of this form. -/
def isWellFormed (cs : List Char) : Bool :=
  cs.length = 36 &&
  cs.zipIdx.all (fun (c, i) =>
    if i = 8 || i = 13 || i = 18 || i = 23 then c = '-' else isHexDigit c) &&
  cs[14]? = some '4' && (cs[19]?.any fun c => c = '8' || c = '9' || c = 'a' || c = 'b')

example : String.ofList (ofRandom 0) = "00000000-0000-4000-8000-000000000000" := by decide
example : isWellFormed (ofRandom (2 ^ 128 - 1)) = true := by decide

end Rendezvous.MatchId
