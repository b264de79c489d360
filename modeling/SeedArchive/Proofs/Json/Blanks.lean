import SeedArchive.Json.Node
import SeedArchive.Proofs.Json.Numerals

namespace SeedArchive.Json

/-- Where bytes stand with regard to strings: in none, in one, or in one right after a backslash. -/
inductive Quotes
  | outside
  | inside
  | escaped
  deriving DecidableEq

def Quotes.next : Quotes → UInt8 → Quotes
  | .outside, b => if b = 34 then .inside else .outside
  | .inside, b => if b = 34 then .outside else if b = 92 then .escaped else .inside
  | .escaped, _ => .inside

/-- The bytes without the blanks that stand in no string. -/
def withoutBlanks (q : Quotes) : List UInt8 → List UInt8
  | [] => []
  | b :: rest =>
    if q = .outside ∧ isSpace b then withoutBlanks q rest else b :: withoutBlanks (q.next b) rest

/-- A document without the blanks between its tokens. -/
def condensed (document : List UInt8) : List UInt8 :=
  withoutBlanks .outside document

theorem withoutBlanks_of_ne {q : Quotes} (hq : q ≠ .outside) (b : UInt8) (rest : List UInt8) :
    withoutBlanks q (b :: rest) = b :: withoutBlanks (q.next b) rest := by
  rw [withoutBlanks, if_neg fun h => hq h.1]

theorem withoutBlanks_of_isSpace {b : UInt8} (hb : isSpace b = true) (rest : List UInt8) :
    withoutBlanks .outside (b :: rest) = withoutBlanks .outside rest := by
  rw [withoutBlanks, if_pos ⟨rfl, hb⟩]

theorem withoutBlanks_of_not_isSpace {b : UInt8} (hb : isSpace b = false) (rest : List UInt8) :
    withoutBlanks .outside (b :: rest) = b :: withoutBlanks (Quotes.outside.next b) rest := by
  rw [withoutBlanks, if_neg (by simp [hb])]

/-- Bytes that are neither blanks nor quotes stay. -/
theorem withoutBlanks_append (used : List UInt8)
    (h : ∀ b ∈ used, isSpace b = false ∧ b ≠ 34) (rest : List UInt8) :
    withoutBlanks .outside (used ++ rest) = used ++ withoutBlanks .outside rest := by
  induction used with
  | nil => rfl
  | cons b used ih =>
    obtain ⟨hb, hused⟩ := List.forall_mem_cons.mp h
    rw [List.cons_append, withoutBlanks_of_not_isSpace hb.1, Quotes.next, if_neg hb.2, ih hused,
      List.cons_append]

/-- A fault without its place. -/
def Fault.bare (f : Fault) : Fault :=
  ⟨f.cause, .at 0⟩

theorem bare_comp_bare : Fault.bare ∘ Fault.bare = Fault.bare :=
  rfl

namespace Unclosed

def bare (s : Unclosed) : Unclosed :=
  { s with flaw := s.flaw.map Fault.bare }

def quotes (s : Unclosed) : Quotes :=
  match s.inside with
  | .escape | .highEscape _ => .escaped
  | _ => .inside

theorem quotes_ne_outside (s : Unclosed) : s.quotes ≠ .outside := by
  unfold quotes
  split <;> decide

theorem bare_flawed (s : Unclosed) (cause : Cause) (n m : Nat) :
    (s.flawed cause n).bare = (s.bare.flawed cause m).bare := by
  cases hflaw : s.flaw <;> simp [flawed, bare, hflaw, Fault.bare, Place.at]

end Unclosed

/-- How a string goes on, unless it is broken off: it is closed or comes to a state. -/
def Turn.next? : Turn → Option (Option Unclosed)
  | .close => some none
  | .stop _ => none
  | .more s => some (some s.bare)

theorem Turn.eq_close_of_next? {t : Turn} (h : t.next? = Turn.close.next?) : t = .close := by
  cases t <;> cases h
  rfl

theorem Turn.exists_of_next? {t : Turn} {s : Unclosed} (h : t.next? = (Turn.more s).next?) :
    ∃ s', t = .more s' ∧ s'.bare = s.bare := by
  cases t with
  | more s' => exact ⟨s', rfl, by simpa [next?] using h⟩
  | _ => cases h

namespace Unclosed

theorem next?_plain (s : Unclosed) (n m : Nat) (b : UInt8) :
    (s.plain n b).next? = (s.bare.plain m b).next? := by
  unfold plain
  repeat' split
  all_goals simp [Turn.next?, bare, bare_comp_bare]

theorem next?_escape (s : Unclosed) (n m : Nat) (b : UInt8) :
    (s.escape n b).next? = (s.bare.escape m b).next? := by
  unfold escape
  repeat' split
  all_goals simp [Turn.next?, bare, bare_comp_bare]

@[simp]
theorem bare_bare (s : Unclosed) : s.bare.bare = s.bare := by
  simp [bare, bare_comp_bare]

theorem bare_pushed (s : Unclosed) (u : Nat) : (s.pushed u).bare = s.bare.pushed u :=
  rfl

theorem bare_unit (s : Unclosed) (n m : Nat) (u : Nat) :
    (s.unit n u).bare = (s.bare.unit m u).bare := by
  unfold unit
  split
  · exact s.bare_flawed _ n m
  · split
    · simp [bare, bare_comp_bare]
    · rw [bare_pushed, bare_pushed, bare_bare]

theorem bare_lowUnit (s : Unclosed) (n m : Nat) (high u : Nat) :
    (s.lowUnit n high u).bare = (s.bare.lowUnit m high u).bare := by
  unfold lowUnit
  split
  · rw [bare_pushed, bare_pushed, bare_bare]
  · exact s.bare_flawed _ n m

theorem next?_more (s s' : Unclosed) (h : s.bare = s'.bare) :
    (Turn.more s).next? = (Turn.more s').next? :=
  congrArg (fun s => some (some s)) h

theorem next?_turn (s : Unclosed) (n m : Nat) (b : UInt8) :
    (s.turn n b).next? = (s.bare.turn m b).next? := by
  obtain ⟨content, flaw, inside⟩ := s
  cases inside with
  | plain => exact next?_plain _ n m b
  | escape => exact next?_escape _ n m b
  | hex digits =>
    rcases digits with _ | ⟨d, _ | ⟨e, _ | ⟨f, _ | ⟨g, digits⟩⟩⟩⟩
    case cons.cons.cons.nil =>
      simp only [turn, bare]
      cases hex4 f e d b with
      | none => rfl
      | some u => exact next?_more _ _ (bare_unit _ _ _ u)
    all_goals exact next?_more _ _ (by simp [bare, bare_comp_bare])
  | high u =>
    simp only [turn, bare]
    split
    · exact next?_more _ _ (by simp [bare, bare_comp_bare])
    · exact (next?_plain _ _ 0 b).trans <| (congrArg (fun s => (plain s 0 b).next?)
        (bare_flawed _ _ _ _)).trans (next?_plain _ _ 0 b).symm
  | highEscape u =>
    simp only [turn, bare]
    split
    · exact next?_more _ _ (by simp [bare, bare_comp_bare])
    · exact (next?_escape _ _ 0 b).trans <| (congrArg (fun s => (escape s 0 b).next?)
        (bare_flawed _ _ _ _)).trans (next?_escape _ _ 0 b).symm
  | highHex u digits =>
    rcases digits with _ | ⟨d, _ | ⟨e, _ | ⟨f, _ | ⟨g, digits⟩⟩⟩⟩
    case cons.cons.cons.nil =>
      simp only [turn, bare]
      cases hex4 f e d b with
      | none => rfl
      | some low => exact next?_more _ _ (bare_lowUnit _ _ _ u low)
    all_goals exact next?_more _ _ (by simp [bare, bare_comp_bare])

theorem turn_of_next? {s s' : Unclosed} (h : s'.bare = s.bare) (n n' : Nat) (b : UInt8) :
    (s'.turn n' b).next? = (s.turn n b).next? := by
  rw [next?_turn s' n' 0, next?_turn s n 0, h]

theorem bare_last (s : Unclosed) (n m : Nat) : (s.last n).bare = (s.bare.last m).bare := by
  obtain ⟨content, flaw, inside⟩ := s
  cases inside with
  | high u => exact bare_flawed _ _ n m
  | _ => simp [last, bare, bare_comp_bare]

theorem text_bare (s : Unclosed) (n m : Nat) :
    (s.text n).mapError Fault.bare = (s.bare.text m).mapError Fault.bare := by
  unfold text
  dsimp only [bare]
  cases s.flaw with
  | some fault => rfl
  | none =>
    dsimp only [Option.map_none]
    cases Utf8.decode s.content.reverse <;> rfl

/-- The digits of the hex escape that a string stands in. -/
def hexDigits? (s : Unclosed) : Option (List UInt8) :=
  match s.inside with
  | .hex digits | .highHex _ digits => some digits
  | _ => none

theorem turn_of_hexDigits? {s : Unclosed} {digits : List UInt8}
    (hdigits : s.hexDigits? = some digits) (n : Nat) (b : UInt8) :
    (∃ cut, s.turn n b = .stop cut) ∨ (∀ d ∈ b :: digits, (hexValue d).isSome) ∨
      ∃ s', s.turn n b = .more s' ∧ s'.hexDigits? = some (b :: digits) := by
  have hall {d e f : UInt8} {u : Nat} (hu : hex4 f e d b = some u) :
      ∀ c ∈ [b, d, e, f], (hexValue c).isSome := by
    simp only [hex4, Option.bind_eq_bind, Option.bind_eq_some_iff] at hu
    obtain ⟨x, hx, y, hy, z, hz, w, hw, -⟩ := hu
    simp [hx, hy, hz, hw]
  obtain ⟨content, flaw, inside⟩ := s
  cases inside with
  | hex | highHex =>
    cases hdigits
    rcases digits with _ | ⟨d, _ | ⟨e, _ | ⟨f, _ | ⟨g, digits⟩⟩⟩⟩
    case cons.cons.cons.nil =>
      simp only [turn]
      split
      next u hu => exact .inr (.inl (hall hu))
      next => exact .inl ⟨_, rfl⟩
    all_goals exact .inr (.inr ⟨_, rfl, rfl⟩)
  | _ => cases hdigits

theorem quotes_of_plain {s s' : Unclosed} {n : Nat} {b : UInt8} (h : s.plain n b = .more s') :
    s'.quotes = Quotes.inside.next b := by
  unfold plain at h
  split at h
  · cases h
  next hquote =>
    rw [Quotes.next, if_neg hquote]
    split at h
    next hbackslash =>
      cases h
      rw [if_pos hbackslash]
      rfl
    next hbackslash =>
      rw [if_neg hbackslash]
      split at h
      · cases h
      · cases h
        rfl

theorem quotes_of_escape {s s' : Unclosed} {n : Nat} {b : UInt8} (h : s.escape n b = .more s') :
    s'.quotes = .inside := by
  unfold escape at h
  split at h
  · cases h
    rfl
  · split at h <;> cases h
    rfl

theorem quotes_unit (s : Unclosed) (n u : Nat) : (s.unit n u).quotes = .inside := by
  unfold unit
  repeat' split
  all_goals rfl

theorem quotes_lowUnit (s : Unclosed) (n high u : Nat) :
    (s.lowUnit n high u).quotes = .inside := by
  unfold lowUnit
  split <;> rfl

theorem next_inside_of_hexValue {b : UInt8} (h : (hexValue b).isSome) :
    Quotes.inside.next b = .inside := by
  have hquote : b ≠ 34 := by
    rintro rfl
    exact absurd h (by decide)
  have hbackslash : b ≠ 92 := by
    rintro rfl
    exact absurd h (by decide)
  rw [Quotes.next, if_neg hquote, if_neg hbackslash]

/-- The quotes of a string after one more byte, which is a hex digit where one is wanted. -/
theorem quotes_of_turn {s s' : Unclosed} {n : Nat} {b : UInt8}
    (hhex : s.hexDigits?.isSome → (hexValue b).isSome) (h : s.turn n b = .more s') :
    s'.quotes = s.quotes.next b := by
  obtain ⟨content, flaw, inside⟩ := s
  cases inside with
  | plain => exact quotes_of_plain h
  | escape => exact quotes_of_escape h
  | hex digits =>
    refine Eq.trans ?_ (next_inside_of_hexValue (hhex rfl)).symm
    rcases digits with _ | ⟨d, _ | ⟨e, _ | ⟨f, _ | ⟨g, digits⟩⟩⟩⟩
    case cons.cons.cons.nil =>
      simp only [turn] at h
      split at h <;> cases h
      exact quotes_unit _ _ _
    all_goals
      cases h
      rfl
  | highHex u digits =>
    refine Eq.trans ?_ (next_inside_of_hexValue (hhex rfl)).symm
    rcases digits with _ | ⟨d, _ | ⟨e, _ | ⟨f, _ | ⟨g, digits⟩⟩⟩⟩
    case cons.cons.cons.nil =>
      simp only [turn] at h
      split at h <;> cases h
      exact quotes_lowUnit _ _ _ _
    all_goals
      cases h
      rfl
  | high u =>
    simp only [turn] at h
    split at h
    next hbackslash =>
      cases h
      rw [hbackslash]
      rfl
    next => exact quotes_of_plain h
  | highEscape u =>
    simp only [turn] at h
    split at h
    · cases h
      rfl
    · exact quotes_of_escape h

theorem eq_quote_of_plain {s : Unclosed} {n : Nat} {b : UInt8} (h : s.plain n b = .close) :
    b = 34 := by
  unfold plain at h
  split at h
  · assumption
  · repeat' split at h
    all_goals cases h

theorem escape_ne_close (s : Unclosed) (n : Nat) (b : UInt8) : s.escape n b ≠ .close := by
  unfold escape
  repeat' split
  all_goals exact nofun

theorem eq_quote_of_turn {s : Unclosed} {n : Nat} {b : UInt8} (h : s.turn n b = .close) :
    s.quotes = .inside ∧ b = 34 := by
  obtain ⟨content, flaw, inside⟩ := s
  cases inside with
  | plain => exact ⟨rfl, eq_quote_of_plain h⟩
  | escape => exact absurd h (escape_ne_close _ _ _)
  | hex digits | highHex u digits =>
    rcases digits with _ | ⟨d, _ | ⟨e, _ | ⟨f, _ | ⟨g, digits⟩⟩⟩⟩
    case cons.cons.cons.nil =>
      simp only [turn] at h
      split at h <;> cases h
    all_goals cases h
  | high u =>
    simp only [turn] at h
    split at h
    · cases h
    · exact ⟨rfl, eq_quote_of_plain h⟩
  | highEscape u =>
    simp only [turn] at h
    split at h
    · cases h
    · exact absurd h (escape_ne_close _ _ _)

end Unclosed

theorem scanString_cons_eq_ok {n : Nat} {s : Unclosed} {b : UInt8} {rest : List UInt8}
    {t : ScannedString} (h : scanString n s (b :: rest) = .ok t) :
    s.turn n b = .close ∧ t = ⟨(s.last (n + 1)).text (n + 1), n + 1, rest⟩ ∨
      ∃ s', s.turn n b = .more s' ∧ scanString (n + 1) s' rest = .ok t := by
  rw [scanString] at h
  cases hturn : s.turn n b with
  | close =>
    rw [hturn] at h
    cases h
    exact .inl ⟨rfl, rfl⟩
  | stop cut =>
    rw [hturn] at h
    cases h
  | more s' =>
    rw [hturn] at h
    exact .inr ⟨s', rfl, h⟩

/-- A string that is closed has only hex digits in its hex escapes. -/
theorem hexValue_of_scanString {rest : List UInt8} :
    ∀ {n : Nat} {s : Unclosed} {b : UInt8} {digits : List UInt8} {t : ScannedString},
      s.hexDigits? = some digits → scanString n s (b :: rest) = .ok t →
        ∀ d ∈ b :: digits, (hexValue d).isSome := by
  induction rest with
  | nil =>
    intro n s b digits t hdigits h
    obtain ⟨cut, hstop⟩ | hall | ⟨s', hmore, -⟩ := Unclosed.turn_of_hexDigits? hdigits n b
    · rw [scanString, hstop] at h
      cases h
    · exact hall
    · rw [scanString, hmore] at h
      cases h
  | cons c rest ih =>
    intro n s b digits t hdigits h
    obtain ⟨cut, hstop⟩ | hall | ⟨s', hmore, hdigits'⟩ := Unclosed.turn_of_hexDigits? hdigits n b
    · rw [scanString, hstop] at h
      cases h
    · exact hall
    · rw [scanString, hmore] at h
      exact fun d hd => ih hdigits' h d (List.mem_cons_of_mem c hd)

/-- A string is read alike wherever it stands and whatever follows it, and the blanks in it stay. -/
theorem scanString_moved {bytes : List UInt8} :
    ∀ {n : Nat} {s : Unclosed} {t : ScannedString}, scanString n s bytes = .ok t →
      ∃ used, bytes = used ++ t.rest ∧
        withoutBlanks s.quotes bytes = used ++ withoutBlanks .outside t.rest ∧
        ∀ (n' : Nat) (s' : Unclosed) (rest : List UInt8), s'.bare = s.bare →
          ∃ t', scanString n' s' (used ++ rest) = .ok t' ∧ t'.rest = rest ∧
            t'.text.mapError Fault.bare = t.text.mapError Fault.bare := by
  induction bytes with
  | nil => exact fun h => nomatch h
  | cons b bytes ih =>
    intro n s t h
    have hhex : s.hexDigits?.isSome → (hexValue b).isSome := by
      intro hsome
      obtain ⟨digits, hdigits⟩ := Option.isSome_iff_exists.mp hsome
      exact hexValue_of_scanString hdigits h b List.mem_cons_self
    obtain ⟨hclose, rfl⟩ | ⟨u, hmore, h⟩ := scanString_cons_eq_ok h
    · obtain ⟨hquotes, rfl⟩ := Unclosed.eq_quote_of_turn hclose
      refine ⟨[34], rfl, ?_, fun n' s' rest hs => ?_⟩
      · rw [hquotes, withoutBlanks_of_ne (by decide)]
        rfl
      · have hturn : s'.turn n' 34 = .close :=
          Turn.eq_close_of_next?
            ((Unclosed.turn_of_next? hs n n' 34).trans (congrArg Turn.next? hclose))
        refine ⟨_, by rw [List.singleton_append, scanString, hturn], rfl, ?_⟩
        dsimp only
        rw [Unclosed.text_bare _ _ 0, Unclosed.text_bare (s.last _) _ 0, Unclosed.bare_last s' _ 0,
          Unclosed.bare_last s _ 0, hs]
    · obtain ⟨used, rfl, hblanks, hmoved⟩ := ih h
      refine ⟨b :: used, rfl, ?_, fun n' s' rest hs => ?_⟩
      · rw [withoutBlanks_of_ne s.quotes_ne_outside, ← Unclosed.quotes_of_turn hhex hmore, hblanks]
        rfl
      · obtain ⟨u', hmore', hu⟩ := Turn.exists_of_next?
          ((Unclosed.turn_of_next? hs n n' b).trans (congrArg Turn.next? hmore))
        rw [List.cons_append, scanString, hmore']
        exact hmoved (n' + 1) u' rest hu

/-- A byte that is neither a blank nor a quote. -/
def IsPlain (b : UInt8) : Prop :=
  isSpace b = false ∧ b ≠ 34

instance (b : UInt8) : Decidable (IsPlain b) :=
  inferInstanceAs (Decidable (_ ∧ _))

theorem isPlain_of_isDigit {b : UInt8} (h : isDigit b = true) : IsPlain b := by
  have hne (c : UInt8) (hc : isDigit c = false) : b ≠ c := by
    rintro rfl
    rw [h] at hc
    cases hc
  refine ⟨?_, hne 34 (by decide)⟩
  simp [isSpace, hne 32 (by decide), hne 9 (by decide), hne 10 (by decide), hne 13 (by decide)]

theorem isPlain_of_spellsExponent {exponent : Option (Bool × List Nat)} {written : List UInt8}
    (h : SpellsExponent exponent written)
    (hds : ∀ negative ds, exponent = some (negative, ds) → ∀ d ∈ ds, d < 10) :
    ∀ b ∈ written, IsPlain b := by
  have hmarked {mark : UInt8} (hmark : mark = 101 ∨ mark = 69) : IsPlain mark := by
    rcases hmark with rfl | rfl <;> decide
  have hdigits {ds : List Nat} (hds : ∀ d ∈ ds, d < 10) : ∀ b ∈ ds.map digitByte, IsPlain b :=
    fun b hb => isPlain_of_isDigit (isDigit_of_mem_map hds b hb)
  cases h with
  | none => exact nofun
  | unsigned hmark ds =>
    exact List.forall_mem_cons.mpr ⟨hmarked hmark, hdigits (hds _ _ rfl)⟩
  | positive hmark ds | negative hmark ds =>
    exact List.forall_mem_cons.mpr ⟨hmarked hmark,
      List.forall_mem_cons.mpr ⟨by decide, hdigits (hds _ _ rfl)⟩⟩

theorem isPlain_of_spells {numeral : Numeral} {written : List UInt8}
    (h : numeral.Spells written) : ∀ b ∈ written, IsPlain b := by
  obtain ⟨hwell, exponent, hexponent, rfl⟩ := h
  have hsign : ∀ b ∈ (if numeral.negative then [45] else [] : List UInt8), IsPlain b := by
    split
    · exact List.forall_mem_singleton.mpr (by decide)
    · exact nofun
  have hwhole : ∀ b ∈ numeral.whole.map digitByte, IsPlain b :=
    fun b hb => isPlain_of_isDigit (isDigit_of_mem_map hwell.whole.lt b hb)
  have hfraction : ∀ b ∈ fractionBytes numeral.fraction, IsPlain b := by
    cases hds : numeral.fraction with
    | none => exact nofun
    | some ds =>
      refine List.forall_mem_cons.mpr ⟨by decide, fun b hb => isPlain_of_isDigit ?_⟩
      exact isDigit_of_mem_map (hwell.fraction ds hds).2 b hb
  have hexponent := isPlain_of_spellsExponent hexponent fun negative ds hds =>
    (hwell.exponent negative ds hds).2
  simp only [Numeral.bytes, List.forall_mem_append]
  exact ⟨⟨⟨hsign, hwhole⟩, hfraction⟩, hexponent⟩

theorem spells_ne_nil {numeral : Numeral} {written : List UInt8} (h : numeral.Spells written) :
    written ≠ [] := by
  obtain ⟨hwell, exponent, -, rfl⟩ := h
  simp [Numeral.bytes, hwell.whole.ne_nil]

/-- Whether a number is in range has nothing to do with where it stands. -/
theorem number_moved {s s' : ScannedNumber} (h : s'.numeral = s.numeral) :
    s'.number.mapError Fault.bare = s.number.mapError Fault.bare := by
  rw [ScannedNumber.number, ScannedNumber.number, h]
  split <;> rfl

theorem scanWord_append (word rest : List UInt8) (n : Nat) :
    scanWord n word (word ++ rest) = .ok (n + word.length, rest) := by
  induction word generalizing n with
  | nil => rfl
  | cons w word ih =>
    rw [List.cons_append, scanWord, if_pos rfl, ih, List.length_cons, Nat.add_right_comm]
    rfl

theorem eq_append_of_scanWord {word bytes rest : List UInt8} {n stop : Nat}
    (h : scanWord n word bytes = .ok (stop, rest)) : bytes = word ++ rest := by
  induction word generalizing n bytes with
  | nil =>
    cases h
    rfl
  | cons w word ih =>
    cases bytes with
    | nil => cases h
    | cons b bytes =>
      rw [scanWord] at h
      split at h
      next hb => rw [hb, ih h, List.cons_append]
      next => cases h

theorem isPlain_of_wordOf {b : UInt8} {word : List UInt8} {lexeme : Lexeme}
    (h : wordOf b = some (word, lexeme)) : ∀ c ∈ b :: word, IsPlain c := by
  have hplain : (b :: word).all (fun c => decide (IsPlain c)) = true := by
    unfold wordOf at h
    repeat' split at h
    all_goals cases h
    all_goals
      subst b
      decide
  exact fun c hc => of_decide_eq_true (List.all_eq_true.mp hplain c hc)

/-- What a token says, wherever it stands. -/
def Lexeme.bare : Lexeme → Lexeme
  | .number value => .number (value.mapError Fault.bare)
  | .string value => .string (value.mapError Fault.bare)
  | lexeme => lexeme

/-- `b` and the bytes used after it are a token wherever they stand and whatever follows them, but
for a number that could go on, and no blank before the rest is left out of them. -/
structure Detached (b : UInt8) (used rest : List UInt8) (lexeme : Lexeme) : Prop where
  blanks : withoutBlanks .outside (b :: (used ++ rest)) =
    b :: (used ++ withoutBlanks .outside rest)
  scanned : ∀ (n : Nat) (rest' : List UInt8),
    (∀ value, lexeme = .number value → EndsNumeral rest') →
      ∃ lexeme' after stop,
        scanToken n b (used ++ rest') = .ok (lexeme', after, stop, rest') ∧
          lexeme'.bare = lexeme.bare

theorem detached_string {n : Nat} {bytes : List UInt8} {s : ScannedString}
    (h : scanString n {} bytes = .ok s) :
    ∃ used, bytes = used ++ s.rest ∧ Detached 34 used s.rest (.string s.text) := by
  obtain ⟨used, hbytes, hblanks, hmoved⟩ := scanString_moved h
  refine ⟨used, hbytes, ⟨?_, fun n' rest' _ => ?_⟩⟩
  · rw [← hbytes, withoutBlanks_of_not_isSpace (by decide)]
    exact congrArg _ hblanks
  · obtain ⟨s', hscan, hrest, htext⟩ := hmoved (n' + 1) {} rest' rfl
    refine ⟨.string s'.text, .at s'.stop, s'.stop, ?_, congrArg Lexeme.string htext⟩
    rw [scanToken, if_pos rfl, hscan, ← hrest]
    rfl

theorem detached_number {n : Nat} {b : UInt8} {bytes : List UInt8} {s : ScannedNumber}
    (hquote : b ≠ 34) (hnumeral : b = 45 ∨ isDigit b = true)
    (h : scanNumber n (b :: bytes) = .ok s) :
    ∃ used, bytes = used ++ s.rest ∧ Detached b used s.rest (.number s.number) := by
  obtain ⟨written, hspells, hwritten⟩ := of_scanNumber h
  obtain ⟨c, used, rfl⟩ := List.exists_cons_of_ne_nil (spells_ne_nil hspells)
  obtain ⟨rfl, hbytes⟩ := List.cons.inj hwritten
  refine ⟨used, hbytes, ⟨withoutBlanks_append _ (isPlain_of_spells hspells) s.rest,
    fun n' rest' hends => ?_⟩⟩
  obtain ⟨s', hscan, heq, hrest⟩ := scanNumber_spelled n' hspells (hends _ rfl)
  refine ⟨.number s'.number, s'.after, s'.stop, ?_, congrArg Lexeme.number (number_moved heq)⟩
  rw [scanToken, if_neg hquote, if_pos hnumeral, ← List.cons_append, hscan, ← hrest]
  rfl

theorem detached_punctuation {b : UInt8} (hb : isSpace b = false) (hquote : b ≠ 34)
    (hnumeral : ¬(b = 45 ∨ isDigit b = true)) {lexeme : Lexeme}
    (h : punctuation b = some lexeme) (rest : List UInt8) : Detached b [] rest lexeme := by
  refine ⟨withoutBlanks_append [b] (by simp [hb, hquote]) rest, fun n rest' _ => ?_⟩
  rw [List.nil_append, scanToken, if_neg hquote, if_neg hnumeral, h]
  exact ⟨_, _, _, rfl, rfl⟩

theorem detached_word {b : UInt8} (hquote : b ≠ 34) (hnumeral : ¬(b = 45 ∨ isDigit b = true))
    (hpunctuation : punctuation b = none) {word : List UInt8} {lexeme : Lexeme}
    (h : wordOf b = some (word, lexeme)) (rest : List UInt8) : Detached b word rest lexeme := by
  refine ⟨withoutBlanks_append _ (isPlain_of_wordOf h) rest, fun n rest' _ => ?_⟩
  rw [scanToken, if_neg hquote, if_neg hnumeral, hpunctuation, h]
  dsimp only
  rw [scanWord_append]
  exact ⟨_, _, _, rfl, rfl⟩

/-- What is read as a token is one wherever it stands. -/
theorem detached_of_scanToken {n stop : Nat} {b : UInt8} {bytes rest : List UInt8}
    {lexeme : Lexeme} {after : Place} (hb : isSpace b = false)
    (h : scanToken n b bytes = .ok (lexeme, after, stop, rest)) :
    ∃ used, bytes = used ++ rest ∧ Detached b used rest lexeme := by
  rw [scanToken] at h
  split at h
  next hquote =>
    cases hscan : scanString (n + 1) {} bytes with
    | error cut =>
      rw [hscan] at h
      cases h
    | ok s =>
      rw [hscan] at h
      cases h
      exact hquote ▸ detached_string hscan
  next hquote =>
    split at h
    next hnumeral =>
      cases hscan : scanNumber n (b :: bytes) with
      | error cut =>
        rw [hscan] at h
        cases h
      | ok s =>
        rw [hscan] at h
        cases h
        exact detached_number hquote hnumeral hscan
    next hnumeral =>
      split at h
      next lexeme' hpunctuation =>
        cases h
        exact ⟨[], rfl, detached_punctuation hb hquote hnumeral hpunctuation _⟩
      next word lexeme' hpunctuation hword =>
        cases hscan : scanWord (n + 1) word bytes with
        | error cut =>
          rw [hscan] at h
          cases h
        | ok s =>
          rw [hscan] at h
          cases h
          exact ⟨word, eq_append_of_scanWord hscan,
            detached_word hquote hnumeral hpunctuation hword _⟩
      next => cases h

end SeedArchive.Json
