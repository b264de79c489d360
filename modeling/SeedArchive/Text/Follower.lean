import SeedArchive.Text.Emoji
import SeedArchive.Text.Width

namespace SeedArchive

/-- What a character finds right after it, as far as the two may be written as one. -/
inductive Follower
  | other
  | arabicAlef
  | hebrewLamed (joined : Bool)
  | bugineseYa (joined : Bool)
  | bugineseVowel
  | tifinaghLetter (joined : Bool)
  | tifinaghPair
  | lisuTone
  | turkicVowel (joined : Bool)
  | khmerLetter
  | raiVowelE
  | raiVowelAi
  | emoji
  | skinTone
  | joinedEmoji
  | joinedKeycap
  | flagLetter
  | flagLetters
  | joinedFlagLetter
  | joinedFlags (odd : Bool)
  | tagLetters (count : Nat)
  | tagDigits (count : Nat)
  deriving DecidableEq

namespace Follower

def joiner : Char := '\u200D'

def isArabicLam (c : Char) : Bool :=
  Ranges.has [(0x644, 0x644), (0x6B5, 0x6B8), (0x76A, 0x76A), (0x8A6, 0x8A6), (0x8C7, 0x8C7)] c

def isArabicAlef (c : Char) : Bool :=
  Ranges.has [(0x622, 0x623), (0x625, 0x625), (0x627, 0x627), (0x671, 0x673), (0x675, 0x675),
    (0x773, 0x774), (0x870, 0x882)] c

/-- A Khmer letter that can be written below another one. -/
def isKhmerLetter (c : Char) : Bool :=
  Ranges.has [(0x1780, 0x1782), (0x1784, 0x1787), (0x1789, 0x178C), (0x178E, 0x1793),
    (0x1795, 0x1798), (0x179B, 0x179D), (0x17A0, 0x17A0), (0x17A2, 0x17A2), (0x17A7, 0x17A7),
    (0x17AB, 0x17AC), (0x17AF, 0x17AF)] c

def isTifinaghLetter (c : Char) : Bool :=
  Ranges.has [(0x2D31, 0x2D65), (0x2D6F, 0x2D6F)] c

def isLisuTone (c : Char) : Bool :=
  '\uA4F8' ≤ c && c ≤ '\uA4FB'

def isTagDigit (c : Char) : Bool :=
  0xE0030 ≤ c.toNat && c.toNat ≤ 0xE0039

def isTagLetter (c : Char) : Bool :=
  0xE0061 ≤ c.toNat && c.toNat ≤ 0xE007A

def isTagEnd (c : Char) : Bool :=
  c.toNat = 0xE007F

def isTagFlag (c : Char) : Bool :=
  c.toNat = 0x1F3F4

def ofChar (c : Char) : Follower :=
  if isArabicAlef c then .arabicAlef
  else if c = '\u05DC' then .hebrewLamed false
  else if c = '\u1A10' then .bugineseYa false
  else if isTifinaghLetter c then .tifinaghLetter false
  else if c = '\uA4FC' ∨ c = '\uA4FD' then .lisuTone
  else if c.toNat = 0x10C03 then .turkicVowel false
  else if isKhmerLetter c then .khmerLetter
  else if c.toNat = 0x16D67 then .raiVowelE
  else if c.toNat = 0x16D68 then .raiVowelAi
  else if Emoji.isFlagLetter c then .flagLetter
  else if Emoji.isSkinTone c then .skinTone
  else if Emoji.shownRanges.has c then .emoji
  else .other

/-- Whether a letter looks for its partner beyond joiners and selectors. -/
def isOpen : Follower → Bool
  | .hebrewLamed _ | .bugineseYa _ | .bugineseVowel | .tifinaghLetter _ | .tifinaghPair
  | .lisuTone | .turkicVowel _ | .khmerLetter => true
  | _ => false

def isLetter (f : Follower) : Bool :=
  f.isOpen || f = .arabicAlef

/-- Whether a joiner ties an emoji to the character in front. -/
def isJoined (f : Follower) : Bool :=
  f = .joinedEmoji || f = .joinedKeycap

/-- A letter with a joiner in front of it. -/
def join : Follower → Follower
  | .hebrewLamed _ => .hebrewLamed true
  | .bugineseYa _ => .bugineseYa true
  | .tifinaghLetter _ => .tifinaghLetter true
  | .turkicVowel _ => .turkicVowel true
  | f => f

/-- What two letters that are written as one add to the columns of the second, and what they are
to the character before them. -/
def ligature? (c : Char) : Follower → Option (Int × Follower)
  | .arabicAlef =>
    if isArabicLam c then some (0, .other)
    else if Width.isTransparent c then some (0, .arabicAlef)
    else none
  | .hebrewLamed true => if c = '\u05D0' then some (0, .other) else none
  | .bugineseYa true => if c = '\u1A17' then some (0, .bugineseVowel) else none
  | .bugineseVowel => if c = '\u1A15' then some (0, .other) else none
  | .tifinaghLetter joined =>
    if c = '\u2D7F' then some (1, .tifinaghPair)
    else if joined && isTifinaghLetter c then some (0, .other)
    else none
  | .tifinaghPair => if isTifinaghLetter c then some (-1, .other) else none
  | .lisuTone => if isLisuTone c then some (0, .other) else none
  | .turkicVowel true => if c.toNat = 0x10C32 then some (0, .other) else none
  | .khmerLetter => if c = '\u17D2' then some (-1, .other) else none
  | .raiVowelE =>
    if c.toNat = 0x16D63 ∨ c.toNat = 0x16D69 then some (0, .other)
    else if c.toNat = 0x16D67 then some (0, .raiVowelAi)
    else if c.toNat = 0x16D68 then some (1, .raiVowelE)
    else none
  | .raiVowelAi => if c.toNat = 0x16D63 then some (0, .other) else none
  | _ => none

/-- The same for an emoji and what belongs to it: tones, joiners, flags of two letters and flags
that tags describe. -/
def emoji? (c : Char) : Follower → Option (Int × Follower)
  | .emoji => if c = joiner then some (0, .joinedEmoji) else none
  | .flagLetter => if Emoji.isFlagLetter c then some (1, .flagLetters) else none
  | .flagLetters =>
    if Emoji.isFlagLetter c then some (1, .flagLetters)
    else if c = joiner then some (0, .joinedEmoji)
    else none
  | .skinTone =>
    if Emoji.tonedRanges.has c then some (0, .emoji)
    else if c = joiner then some (0, .joinedEmoji)
    else none
  | .joinedEmoji =>
    if c = '\u20E3' then some (0, .joinedKeycap)
    else if Emoji.isFlagLetter c then some (1, .joinedFlagLetter)
    else if Emoji.isSkinTone c then some (0, .skinTone)
    else if isTagEnd c then some (0, .tagLetters 0)
    else if Emoji.shownRanges.has c then some (0, .emoji)
    else none
  | .joinedFlagLetter => if Emoji.isFlagLetter c then some (-1, .joinedFlags false) else none
  | .joinedFlags odd =>
    if c = joiner then some (0, .joinedEmoji)
    else if Emoji.isFlagLetter c then some (if odd then -1 else 3, .joinedFlags !odd)
    else none
  | .tagLetters n =>
    if isTagLetter c ∧ n < 6 then some (0, .tagLetters (n + 1))
    else if isTagDigit c ∧ n < 5 then some (0, .tagDigits 1)
    else if isTagFlag c ∧ 3 ≤ n then some (0, .emoji)
    else none
  | .tagDigits n =>
    if isTagDigit c ∧ n < 3 then some (0, .tagDigits (n + 1))
    else if isTagFlag c ∧ n = 3 then some (0, .emoji)
    else none
  | _ => none

/-- What a character adds to the columns of what it is written as one with. -/
def before? (c : Char) (f : Follower) : Option (Int × Follower) :=
  if f.isOpen ∧ c = joiner then some (0, f.join)
  else if f.isOpen ∧ Width.ignoredRanges.has c then some (0, f)
  else (ligature? c f).or (emoji? c f)

end Follower

end SeedArchive
