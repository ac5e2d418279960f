import DeviceRig.Link.Address
import DeviceRig.Proofs.Text.Numerals
import DeviceRig.Proofs.Text.Trimming

/-!
# The grammar of link addresses

Which texts are read as which address, and which text each address is printed
as. A path may hold at signs, colons and blanks: the mark of a socket wins over
an at sign, and the last at sign over those before it. So the proofs go by the
two ends of a text, its mark and its rate.
-/
namespace DeviceRig.LinkAddress

inductive Denotes : List Char → LinkAddress → Prop where
  | socket {path : List Char} (hPath : path ≠ []) :
      Denotes (socketMark ++ path) (.socket (String.ofList path))
  | bare {path : List Char} (hPath : path ≠ []) (hMark : ¬socketMark <+: path)
      (hSign : '@' ∉ path) : Denotes path (.serial (String.ofList path) defaultBaudRate)
  | rated {path baud : List Char} {rate : Nat} (hMark : ¬socketMark <+: path ++ '@' :: baud)
      (hBaud : Text.IsNumeral Text.wordLimit baud rate) :
      Denotes (path ++ '@' :: baud) (.serial (String.ofList path) rate)

theorem takeWhile_reverse {text : List Char} (h : '@' ∉ text) (rest : List Char) :
    (text.reverse ++ rest).takeWhile (· ≠ '@') = text.reverse ++ rest.takeWhile (· ≠ '@') := by
  refine List.takeWhile_append_of_pos fun c hc => decide_eq_true ?_
  rintro rfl
  exact h (List.mem_reverse.mp hc)

theorem splitAtSign_append {path baud : List Char} (h : '@' ∉ baud) :
    splitAtSign (path ++ '@' :: baud) = some (path, baud) := by
  have hReverse : (path ++ '@' :: baud).reverse = baud.reverse ++ '@' :: path.reverse := by simp
  rw [splitAtSign, hReverse, takeWhile_reverse h, List.takeWhile_cons_of_neg (by simp)]
  simp

theorem splitAtSign_of_notMem {text : List Char} (h : '@' ∉ text) : splitAtSign text = none := by
  have hAll := takeWhile_reverse h []
  rw [List.append_nil, List.takeWhile_nil, List.append_nil] at hAll
  rw [splitAtSign, hAll, List.drop_length]

theorem eq_of_append_sign {path other baud otherBaud : List Char} (h : '@' ∉ baud)
    (hOther : '@' ∉ otherBaud) (hSame : path ++ '@' :: baud = other ++ '@' :: otherBaud) :
    path = other ∧ baud = otherBaud := by
  have hSplit : splitAtSign (path ++ '@' :: baud) = some (path, baud) := splitAtSign_append h
  rw [hSame, splitAtSign_append hOther] at hSplit
  obtain ⟨rfl, rfl⟩ := Prod.mk.inj (Option.some.inj hSplit)
  exact ⟨rfl, rfl⟩

theorem exists_last_sign {text : List Char} (h : '@' ∈ text) :
    ∃ path baud, text = path ++ '@' :: baud ∧ '@' ∉ baud := by
  induction text with
  | nil => cases h
  | cons c rest ih =>
    by_cases hRest : '@' ∈ rest
    · obtain ⟨path, baud, rfl, hBaud⟩ := ih hRest
      exact ⟨c :: path, baud, rfl, hBaud⟩
    · obtain rfl : '@' = c := (List.mem_cons.mp h).resolve_right hRest
      exact ⟨[], rest, rfl, hRest⟩

theorem sign_notMem {baud : List Char} {rate : Nat}
    (h : Text.IsNumeral Text.wordLimit baud rate) : '@' ∉ baud := by
  obtain ⟨digits, hBaud, -, hDigits, -⟩ := h
  intro hSign
  have hDigit : '@'.isDigit = true := by
    rcases hBaud with rfl | rfl
    · exact hDigits '@' hSign
    · exact hDigits '@' ((List.mem_cons.mp hSign).resolve_left (by decide))
  revert hDigit
  decide

section Reading

variable {text : List Char} {address : LinkAddress} {error : LinkError}

theorem ofTrimmed_of_mark {path : List Char} (hPath : path ≠ []) :
    ofTrimmed (socketMark ++ path) = .ok (.socket (String.ofList path)) := by
  simp [ofTrimmed, socketMark, hPath]

theorem ofTrimmed_of_notMem (hText : text ≠ []) (hMark : ¬socketMark <+: text)
    (hSign : '@' ∉ text) :
    ofTrimmed text = .ok (.serial (String.ofList text) defaultBaudRate) := by
  rw [← List.isPrefixOf_iff_prefix] at hMark
  simp [ofTrimmed, hText, hMark, splitAtSign_of_notMem hSign]

theorem ofTrimmed_of_sign {path baud : List Char} (hMark : ¬socketMark <+: path ++ '@' :: baud)
    (hSign : '@' ∉ baud) :
    ofTrimmed (path ++ '@' :: baud) =
      match Text.naturalChars Text.wordLimit baud with
      | .ok rate => .ok (.serial (String.ofList path) rate)
      | .error _ => .error (.invalidAddress (String.ofList (path ++ '@' :: baud))) := by
  rw [← List.isPrefixOf_iff_prefix] at hMark
  cases hNumeral : Text.naturalChars Text.wordLimit baud <;>
    simp [ofTrimmed, hMark, splitAtSign_append hSign, hNumeral]

theorem ofTrimmed_eq_ok_iff : ofTrimmed text = .ok address ↔ Denotes text address := by
  constructor
  · intro h
    by_cases hMark : socketMark <+: text
    · obtain ⟨path, rfl⟩ := hMark
      by_cases hPath : path = []
      · subst hPath
        cases h
      · rw [ofTrimmed_of_mark hPath] at h
        cases h
        exact .socket hPath
    by_cases hText : text = []
    · subst hText
      cases h
    by_cases hSign : '@' ∈ text
    · obtain ⟨path, baud, rfl, hBaud⟩ := exists_last_sign hSign
      rw [ofTrimmed_of_sign hMark hBaud] at h
      split at h
      · rename_i rate hRate
        cases h
        exact .rated hMark (Text.naturalChars_eq_ok_iff.mp hRate)
      · cases h
    · rw [ofTrimmed_of_notMem hText hMark hSign] at h
      cases h
      exact .bare hText hMark hSign
  · intro h
    cases h with
    | socket hPath => exact ofTrimmed_of_mark hPath
    | bare hPath hMark hSign => exact ofTrimmed_of_notMem hPath hMark hSign
    | rated hMark hBaud =>
      rw [ofTrimmed_of_sign hMark (sign_notMem hBaud), Text.naturalChars_eq_ok_iff.mpr hBaud]

theorem ofTrimmed_eq_error (h : ofTrimmed text = .error error) :
    error = .invalidAddress (String.ofList text) := by
  unfold ofTrimmed at h
  dsimp only at h
  split at h
  · exact (Except.error.inj h).symm
  split at h
  · split at h
    · exact (Except.error.inj h).symm
    · cases h
  · split at h
    · cases h
    · split at h
      · cases h
      · exact (Except.error.inj h).symm

theorem Denotes.path_eq_empty_iff (h : Denotes text address) :
    address.path = "" ↔
      ∃ baud rate, text = '@' :: baud ∧ Text.IsNumeral Text.wordLimit baud rate := by
  have hEmpty (path : List Char) : String.ofList path = "" ↔ path = [] := by
    rw [← String.ofList_nil, String.ofList_inj]
  cases h with
  | socket hPath => simp [path, hEmpty, hPath, socketMark]
  | bare hPath hMark hSign =>
    simp only [path, hEmpty, hPath, false_iff]
    rintro ⟨baud, rate, rfl, -⟩
    exact hSign List.mem_cons_self
  | @rated before baud rate hMark hBaud =>
    rw [path, hEmpty]
    constructor
    · rintro rfl
      exact ⟨baud, rate, rfl, hBaud⟩
    · rintro ⟨other, otherRate, hOther, hNumeral⟩
      have hSame : before ++ '@' :: baud = [] ++ '@' :: other := hOther
      exact (eq_of_append_sign (sign_notMem hBaud) (sign_notMem hNumeral) hSame).1

/-- An address is read from just the texts that stand for one; every other text is told to be none.
Only a rate by itself stands for an address without a path. -/
theorem parse_eq_ok_iff_denotes (text : String) :
    let trimmed := Text.trimChars text.toList
    (∀ address, parse text = .ok address ↔ Denotes trimmed address) ∧
      (∀ error, parse text = .error error → error = .invalidAddress (String.ofList trimmed)) ∧
      ∀ address, parse text = .ok address →
        (address.path = "" ↔
          ∃ baud rate, trimmed = '@' :: baud ∧ Text.IsNumeral Text.wordLimit baud rate) :=
  ⟨fun _ => ofTrimmed_eq_ok_iff, fun _ => ofTrimmed_eq_error,
    fun _ h => (ofTrimmed_eq_ok_iff.mp h).path_eq_empty_iff⟩

/-- A rate by itself is taken for an address whose path is empty. -/
theorem parse_rate_alone :
    parse "@9600" = .ok (.serial "" 9600) ∧ (LinkAddress.serial "" 9600).path = "" :=
  ⟨rfl, rfl⟩

end Reading

section Printing

variable {text : List Char} {address : LinkAddress}

theorem toList_display_socket (path : String) :
    (socket path).display.toList = socketMark ++ path.toList := by
  rw [display]
  exact String.toList_append

theorem toList_display_serial (path : String) (rate : Nat) :
    (serial path rate).display.toList = path.toList ++ '@' :: Nat.toDigits 10 rate := by
  change (path ++ "@" ++ toString rate).toList = _
  simp

theorem mark_prefix_append_iff {path baud : List Char} :
    socketMark <+: path ++ '@' :: baud ↔ socketMark <+: path := by
  refine ⟨fun h => ?_, fun h => h.trans (List.prefix_append _ _)⟩
  rcases List.prefix_or_prefix_of_prefix h (List.prefix_append path _) with hMark | ⟨rest, hRest⟩
  · exact hMark
  · cases rest with
    | nil =>
      rw [List.append_nil] at hRest
      exact hRest ▸ List.prefix_rfl
    | cons c rest =>
      rw [← hRest, List.prefix_append_right_inj] at h
      obtain ⟨rfl, -⟩ := List.cons_prefix_cons.mp h
      have hSign : '@' ∈ path ++ '@' :: rest := List.mem_append_right path List.mem_cons_self
      rw [hRest] at hSign
      exact absurd hSign (by decide)

/-- The form that printing gives: no blanks at the ends, and a rate in plain digits behind the path
of a serial line. -/
structure IsNormal (text : List Char) : Prop where
  trimmed : Text.IsTrimmed text
  rated : socketMark <+: text ∨
    ∃ path baud, text = path ++ '@' :: baud ∧ '@' ∉ baud ∧ Text.IsPlain baud

theorem denotes_display_serial {path : List Char} {rate : Nat} (hRate : rate ≤ Text.wordLimit)
    (hMark : ¬socketMark <+: path) (hHead : ∀ c, path.head? = some c → Text.isBlank c = false) :
    Denotes (serial (String.ofList path) rate).display.toList (.serial (String.ofList path) rate) ∧
      IsNormal (serial (String.ofList path) rate).display.toList := by
  rw [toList_display_serial, String.toList_ofList]
  have hBaud := Text.isNumeral_toDigits hRate
  refine ⟨.rated (mark_prefix_append_iff.not.mpr hMark) hBaud, ⟨?_, ?_⟩,
    .inr ⟨path, _, rfl, sign_notMem hBaud, Text.isPlain_toDigits rate⟩⟩
  · intro c hc
    cases path with
    | nil =>
      cases hc
      decide
    | cons first rest => exact hHead c hc
  · intro c hc
    rw [List.getLast?_append_of_ne_nil _ (List.cons_ne_nil _ _),
      List.getLast?_cons_of_ne_nil Nat.toDigits_ne_nil] at hc
    exact Text.isBlank_of_isDigit
      (Nat.isDigit_of_mem_toDigits (by omega) (by omega) (List.mem_of_getLast? hc))

theorem Denotes.display (h : Denotes text address) (hTrimmed : Text.IsTrimmed text) :
    Denotes address.display.toList address ∧ IsNormal address.display.toList := by
  cases h with
  | @socket path hPath =>
    rw [toList_display_socket, String.toList_ofList]
    exact ⟨.socket hPath, hTrimmed, .inl (List.prefix_append _ _)⟩
  | bare hPath hMark hSign => exact denotes_display_serial (by decide) hMark hTrimmed.head
  | @rated path baud rate hMark hBaud =>
    obtain ⟨-, -, -, -, -, hRate⟩ := id hBaud
    refine denotes_display_serial hRate (mark_prefix_append_iff.not.mp hMark) fun c hc => ?_
    refine hTrimmed.head c ?_
    rw [List.head?_append, hc, Option.some_or]

theorem Denotes.display_eq (h : Denotes text address) (hNormal : IsNormal text) :
    address.display.toList = text := by
  cases h with
  | socket hPath => rw [toList_display_socket, String.toList_ofList]
  | bare hPath hMark hSign =>
    rcases hNormal.rated with hPrefix | ⟨path, baud, rfl, -⟩
    · exact absurd hPrefix hMark
    · exact absurd (List.mem_append_right path List.mem_cons_self) hSign
  | @rated path baud rate hMark hBaud =>
    rcases hNormal.rated with hPrefix | ⟨other, otherBaud, hOther, hSign, hPlain⟩
    · exact absurd hPrefix hMark
    · obtain ⟨-, rfl⟩ := eq_of_append_sign (sign_notMem hBaud) hSign hOther
      rw [toList_display_serial, String.toList_ofList, ← hBaud.isPlain_iff.mp hPlain]

/-- What is printed for an address that was read is read as that address again. It is in normal
form, and so is no other text that is read as the address. -/
theorem parse_display {text : String} (h : parse text = .ok address) :
    parse address.display = .ok address ∧ IsNormal address.display.toList ∧
      (IsNormal text.toList ↔ text = address.display) := by
  have hDenotes : Denotes (Text.trimChars text.toList) address := ofTrimmed_eq_ok_iff.mp h
  obtain ⟨hDisplay, hNormal⟩ := hDenotes.display (Text.isTrimmed_trimChars _)
  refine ⟨?_, hNormal, fun hText => ?_, fun hText => hText ▸ hNormal⟩
  · rw [parse, hNormal.trimmed.trimChars_eq]
    exact ofTrimmed_eq_ok_iff.mpr hDisplay
  · rw [hText.trimmed.trimChars_eq] at hDenotes
    exact (String.toList_inj.mp (hDenotes.display_eq hText)).symm

/-- Blanks around the text, a sign and a blank in the path, a plus sign and zeros in the rate. -/
theorem parse_display_padded :
    parse " tty@a @+096\n" = .ok (.serial "tty@a " 96) ∧
      parse "tty@a @96" = .ok (.serial "tty@a " 96) := by
  have hRead : parse " tty@a @+096\n" = .ok (.serial "tty@a " 96) := rfl
  exact ⟨hRead, (parse_display hRead).1⟩

end Printing

end DeviceRig.LinkAddress
