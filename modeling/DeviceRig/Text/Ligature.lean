import DeviceRig.Text.Width

/-!
How many terminal columns a text takes. Characters that are drawn as one are counted as one:
pictures joined or coloured, flags, selected forms, and the ligatures of some scripts. A text is
read from its end, so that each character knows what it stands before.
-/
namespace DeviceRig.Text

inductive Following where
  | plain
  | lineFeed
  | skinTone
  | flagLetter
  | flagLetters
  | picture
  /-- The joiner before a picture, the enclosing keycap before that, and the flag letters before
  it, one or an even or odd number of them. -/
  | joinedPicture
  | joinedKeycap
  | joinedFlagLetter
  | joinedEvenFlagLetters
  | joinedOddFlagLetters
  /-- The end of a region's name, after some of its letters or of its digits. -/
  | tagLetters (count : Nat)
  | tagDigits (count : Nat)
  | alef
  /-- A letter that joins with what comes before it, `joined` if a joiner stands between. -/
  | lamed (joined : Bool)
  | orkhonI (joined : Bool)
  | bugineseYa (joined : Bool)
  | bugineseVowelYa
  | tifinagh (joined : Bool)
  | tifinaghPair
  | lisuTone
  | khmerLetter
  | kiratRaiE
  | kiratRaiAi
  deriving Repr, DecidableEq

/-- What a character stands before, and the variation selector between. -/
structure Context where
  following : Following := .plain
  selector : Option Char := none
  deriving Repr, DecidableEq

def textSelector : Char := Char.ofNat 0xFE0E

def pictureSelector : Char := Char.ofNat 0xFE0F

def wideSelector : Char := Char.ofNat 0xFE01

def joiner : Char := Char.ofNat 0x200D

/-- Arabic letters that are written in one with an alef after them. -/
def isLam (c : Char) : Bool :=
  inRanges #[(0x644, 0x644), (0x6B5, 0x6B8), (0x76A, 0x76A), (0x8A6, 0x8A6), (0x8C7, 0x8C7)] c

def isAlef (c : Char) : Bool :=
  inRanges #[(0x622, 0x623), (0x625, 0x625), (0x627, 0x627), (0x671, 0x673), (0x675, 0x675),
    (0x773, 0x774), (0x870, 0x882)] c

/-- Khmer letters that are written below the letter before them where a coeng asks for it. -/
def isKhmerLetter (c : Char) : Bool :=
  inRanges #[(0x1780, 0x1782), (0x1784, 0x1787), (0x1789, 0x178C), (0x178E, 0x1793),
    (0x1795, 0x1798), (0x179B, 0x179D), (0x17A0, 0x17A0), (0x17A2, 0x17A2), (0x17A7, 0x17A7),
    (0x17AB, 0x17AC), (0x17AF, 0x17AF)] c

def isTifinaghConsonant (c : Char) : Bool :=
  inRanges #[(0x2D31, 0x2D65), (0x2D6F, 0x2D6F)] c

def isCurlyQuote (c : Char) : Bool :=
  inRanges #[(0x2018, 0x2019), (0x201C, 0x201D)] c

/-- Invisible characters that leave the ligatures of all scripts as they are. -/
def isLigatureMark (c : Char) : Bool :=
  inRanges #[(0x34F, 0x34F), (0x17B4, 0x17B5), (0x180B, 0x180D), (0x180F, 0x180F),
    (0x200D, 0x200D), (0xFE00, 0xFE0F), (0xE0100, 0xE01EF)] c

/-- A letter that the character before it may join with, across invisible characters. -/
def Following.isLetter : Following → Bool
  | .lamed _ | .orkhonI _ | .bugineseYa _ | .bugineseVowelYa | .tifinagh _ | .tifinaghPair
  | .lisuTone | .khmerLetter | .kiratRaiE | .kiratRaiAi => true
  | _ => false

def Following.join : Following → Following
  | .lamed _ => .lamed true
  | .orkhonI _ => .orkhonI true
  | .bugineseYa _ => .bugineseYa true
  | .tifinagh _ => .tifinagh true
  | following => following

def Following.outlasts (following : Following) (selector : Char) : Bool :=
  following.isLetter || following = .alef
    || (selector = pictureSelector && (following = .joinedPicture || following = .joinedKeycap))

/-- What stands after a character once the selector between has found no use. -/
def Context.withoutSelector (context : Context) : Following :=
  if context.selector.isNone || context.following.isLetter || context.following = .alef then
    context.following
  else .plain

/-- The columns of a character in no company, and what it is for the one before it. -/
def alone (c : Char) : Nat × Context :=
  let leaving := fun following => (charWidth c, { following : Context })
  if c = '\n' then leaving .lineFeed
  else if c = textSelector || c = pictureSelector || c = wideSelector then
    (0, { selector := some c })
  else if isAlef c then leaving .alef
  else if c.toNat = 0x5DC then leaving (.lamed false)
  else if isKhmerLetter c then leaving .khmerLetter
  else if c.toNat = 0x1A10 then leaving (.bugineseYa false)
  else if isTifinaghConsonant c then leaving (.tifinagh false)
  else if c.toNat = 0xA4FC || c.toNat = 0xA4FD then leaving .lisuTone
  else if c.toNat = 0x10C03 then leaving (.orkhonI false)
  else if c.toNat = 0x16D67 then leaving .kiratRaiE
  else if c.toNat = 0x16D68 then leaving .kiratRaiAi
  else if isFlagLetter c then leaving .flagLetter
  else if isSkinTone c then leaving .skinTone
  else if isPicture c then leaving .picture
  else leaving .plain

/-- The change in columns that a character makes before `following`, where the two are drawn
otherwise than one by one, and what they are then for the character before them. -/
def together? (c : Char) (following : Following) : Option (Int × Following) :=
  match following with
  | .alef =>
    if isLam c then some (0, .plain)
    else if isTransparentMark c then some (0, .alef)
    else none
  | .lamed true => if c.toNat = 0x5D0 then some (0, .plain) else none
  | .orkhonI true => if c.toNat = 0x10C32 then some (0, .plain) else none
  | .khmerLetter => if c.toNat = 0x17D2 then some (-1, .plain) else none
  | .bugineseYa true => if c.toNat = 0x1A17 then some (0, .bugineseVowelYa) else none
  | .bugineseVowelYa => if c.toNat = 0x1A15 then some (0, .plain) else none
  | .tifinagh joined =>
    if c.toNat = 0x2D7F then some (1, .tifinaghPair)
    else if joined && isTifinaghConsonant c then some (0, .plain)
    else none
  | .tifinaghPair => if isTifinaghConsonant c then some (-1, .plain) else none
  | .lisuTone => if 0xA4F8 ≤ c.toNat && c.toNat ≤ 0xA4FB then some (0, .plain) else none
  | .kiratRaiE =>
    if c.toNat = 0x16D63 || c.toNat = 0x16D69 then some (0, .plain)
    else if c.toNat = 0x16D67 then some (0, .kiratRaiAi)
    else if c.toNat = 0x16D68 then some (1, .kiratRaiE)
    else none
  | .kiratRaiAi => if c.toNat = 0x16D63 then some (0, .plain) else none
  | .skinTone =>
    if isTonable c then some (0, .picture)
    else if c = joiner then some (0, .joinedPicture)
    else none
  | .flagLetter => if isFlagLetter c then some (1, .flagLetters) else none
  | .flagLetters =>
    if isFlagLetter c then some (1, .flagLetters)
    else if c = joiner then some (0, .joinedPicture)
    else none
  | .picture => if c = joiner then some (0, .joinedPicture) else none
  | .joinedPicture =>
    if c.toNat = 0x20E3 then some (0, .joinedKeycap)
    else if isFlagLetter c then some (1, .joinedFlagLetter)
    else if isSkinTone c then some (0, .skinTone)
    else if c.toNat = 0xE007F then some (0, .tagLetters 0)
    else if isPicture c then some (0, .picture)
    else none
  | .joinedFlagLetter => if isFlagLetter c then some (-1, .joinedEvenFlagLetters) else none
  | .joinedEvenFlagLetters =>
    if isFlagLetter c then some (3, .joinedOddFlagLetters)
    else if c = joiner then some (0, .joinedPicture)
    else none
  | .joinedOddFlagLetters =>
    if isFlagLetter c then some (-1, .joinedEvenFlagLetters)
    else if c = joiner then some (0, .joinedPicture)
    else none
  | .tagLetters count =>
    if isTagLetter c && count < 6 then some (0, .tagLetters (count + 1))
    else if isTagDigit c && count < 5 then some (0, .tagDigits 1)
    else if c.toNat = 0x1F3F4 && 3 ≤ count then some (0, .picture)
    else none
  | .tagDigits count =>
    if isTagDigit c && count < 3 then some (0, .tagDigits (count + 1))
    else if c.toNat = 0x1F3F4 && count = 3 then some (0, .picture)
    else none
  | _ => none

/-- The change in columns that a character makes before what is no selector. -/
def beforeFollowing (c : Char) (following : Following) : Int × Context :=
  if c.toNat ≤ 0xA0 then
    if c = '\r' && following = .lineFeed then (0, {})
    else let (columns, context) := alone c; (columns, context)
  else if c = pictureSelector || c = textSelector || c = wideSelector then
    (0, ⟨if following.outlasts c then following else .plain, some c⟩)
  else if following.isLetter && isLigatureMark c then
    (0, ⟨if c = joiner then following.join else following, none⟩)
  else match together? c following with
    | some (columns, following) => (columns, { following })
    | none => let (columns, context) := alone c; (columns, context)

/-- The change in columns that a character makes before its context. -/
def inContext (c : Char) (context : Context) : Int × Context :=
  if context.selector = some pictureSelector && isSelectable c then
    (if context.following = .joinedPicture || context.following = .joinedKeycap then 0 else 2,
      { following := .picture })
  else if context.selector = some textSelector && isNarrowable c then (1, {})
  else if context.selector = some wideSelector && isCurlyQuote c then (2, {})
  else beforeFollowing c context.withoutSelector

/-- The columns of a text, and the context that it makes for a character before it. -/
def measure (text : List Char) : Int × Context :=
  text.foldr (fun c (columns, context) =>
    let (more, context) := inContext c context
    (columns + more, context)) (0, {})

def width (text : String) : Nat :=
  (measure text.toList).1.toNat

end DeviceRig.Text
