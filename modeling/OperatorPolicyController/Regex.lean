import OperatorPolicyController.Resources

/-!
# Correlating a resolution failure with one Subscription

OLM writes the resolution failure of any Subscription of a namespace onto all of them.
`messageIncludesSubscription` decides whether a failure message is about this one, with a
regular expression built from the Subscription's name `N`, namespace `NS` and package `P`, each
passed through `regexp.QuoteMeta`:

  `(?:subscription (?:N|NS\/N)|package (?:P|NS\/P))(?:$|\s|,|:)`

## The regular expression

`regexp.MatchString` compiles the pattern with the RE2 syntax of `regexp/syntax` and reports
whether the message contains a match. `parse` reads the part of that syntax the pattern can use:
literals, escaped punctuation, `\s`, `$`, alternation and non-capturing groups. It rejects
everything else, so a pattern it accepts is one Go accepts with the same meaning. Like Go's
parser it works left to right with a stack of open groups. `Regex.matchAt` gives the remainders
after matching a prefix; `$` without the `m` flag matches only at the end of the text, and `\s`
is `[\t\n\f\r ]`. Go also caps the size of a pattern at 2^25 runes, far above any pattern built
from the fields of a Kubernetes object, which the API server caps at 1.5 MiB; the cap is not
modelled.

## Round trip

`parseAux_quoteChars`: parsing a quoted string contributes exactly its characters as literals,
whatever they are. That is what makes the pattern mean the literal mentions, and
`messageIncludesSubscription_iff` follows from it.
-/

namespace OperatorPolicyController

/-! ## Quoting -/

/-- The characters `regexp.QuoteMeta` escapes: `\.+*?()|[]` and the braces, `^` and `$`. -/
def regexSpecials : List Char :=
  ['\\', '.', '+', '*', '?', '(', ')', '|', '[', ']', '\x7b', '\x7d', '^', '$']

/-- Whether `regexp.QuoteMeta` escapes the character. -/
def isRegexSpecial (c : Char) : Bool := regexSpecials.contains c

/-- `regexp.QuoteMeta`, on characters. -/
def quoteChars (s : List Char) : List Char :=
  s.flatMap fun c ↦ if isRegexSpecial c then ['\\', c] else [c]

/-- `regexp.QuoteMeta`. -/
def quoteMeta (s : String) : String := ⟨quoteChars s.toList⟩

/-! ## Syntax -/

/-- The RE2 constructs the pattern uses. -/
inductive Regex where
  /-- The empty concatenation. -/
  | empty
  | lit (c : Char)
  /-- `\s`. -/
  | space
  /-- `$` without the `m` flag. -/
  | endText
  | cat (r s : Regex)
  | alt (r s : Regex)

/-- A concatenation. -/
def catOf : List Regex → Regex
  | [] => .empty
  | [r] => r
  | r :: rs => .cat r (catOf rs)

/-- An alternation of at least one branch. -/
def altOf : List Regex → Regex
  | [] => .empty
  | [r] => r
  | r :: rs => .alt r (altOf rs)

/-- An open group: its completed alternatives and the concatenation being read. -/
structure Frame where
  alts : List Regex := []
  seq : List Regex := []

/-- Append an atom to the concatenation being read. -/
def Frame.push (f : Frame) (r : Regex) : Frame := { f with seq := f.seq ++ [r] }

/-- `|`: the concatenation becomes an alternative. -/
def Frame.bar (f : Frame) : Frame := { alts := f.alts ++ [catOf f.seq] }

/-- The group as one regular expression. -/
def Frame.close (f : Frame) : Regex := altOf (f.alts ++ [catOf f.seq])

/-- `\` before an ASCII character that is neither a letter nor a digit stands for that
character. -/
def isEscapablePunct (c : Char) : Bool := c.toNat < 128 && !c.isAlphanum

/-- The parser of the RE2 fragment: the rest of the pattern, the innermost open group, and the
groups around it. -/
def parseAux : List Char → Frame → List Frame → Option Regex
  | [], top, stack => if stack.isEmpty then some top.close else none
  | c :: cs, top, stack =>
    if c = '\\' then
      match cs with
      | d :: cs =>
        if d = 's' then parseAux cs (top.push .space) stack
        else if isEscapablePunct d then parseAux cs (top.push (.lit d)) stack else none
      | [] => none
    else if c = '(' then
      match cs with
      | d :: cs =>
        match cs with
        | e :: cs => if d = '?' ∧ e = ':' then parseAux cs {} (top :: stack) else none
        | [] => none
      | [] => none
    else if c = ')' then
      match stack with
      | outer :: stack => parseAux cs (outer.push top.close) stack
      | [] => none
    else if c = '|' then parseAux cs top.bar stack
    else if c = '$' then parseAux cs (top.push .endText) stack
    else if isRegexSpecial c then none
    else parseAux cs (top.push (.lit c)) stack

/-- `regexp.Compile` on the fragment. -/
def parse (pattern : String) : Option Regex := parseAux pattern.toList {} []

/-! ## Semantics -/

/-- `\s` in RE2: `[\t\n\f\r ]`. -/
def isGoSpace (c : Char) : Bool :=
  c = ' ' || c = '\t' || c = '\n' || c = '\x0c' || c = '\r'

/-- The remainders of `t` after a prefix matched by the expression. -/
def Regex.matchAt : Regex → List Char → List (List Char)
  | .empty, t => [t]
  | .lit c, t =>
    match t with
    | d :: t => if d = c then [t] else []
    | [] => []
  | .space, t =>
    match t with
    | d :: t => if isGoSpace d then [t] else []
    | [] => []
  | .endText, t => if t = [] then [[]] else []
  | .cat r r', t => (r.matchAt t).flatMap r'.matchAt
  | .alt r r', t => r.matchAt t ++ r'.matchAt t

/-- Whether some suffix of `t` starts with a match: an unanchored search. -/
def Regex.search (r : Regex) : List Char → Bool
  | [] => !(r.matchAt []).isEmpty
  | c :: cs => !(r.matchAt (c :: cs)).isEmpty || r.search cs

/-- `regexp.MatchString`. -/
def matchString (pattern s : String) : Except String Bool :=
  match parse pattern with
  | some r => .ok (r.search s.toList)
  | none => .error "error parsing regexp"

/-- The pattern `messageIncludesSubscription` builds. -/
def subscriptionPattern (sub : Subscription) : String :=
  let safeNs := quoteMeta sub.namespace
  let safeSubName := quoteMeta sub.name
  let safeSubNameWithNs := safeNs ++ "\\/" ++ safeSubName
  let safePackageName := quoteMeta sub.spec.package
  let safePackageNameWithNs := safeNs ++ "\\/" ++ safePackageName
  "(?:subscription (?:" ++ safeSubName ++ "|" ++ safeSubNameWithNs ++ ")|package (?:" ++
    safePackageName ++ "|" ++ safePackageNameWithNs ++ "))(?:$|\\s|,|:)"

/-- `messageIncludesSubscription`: whether the message mentions the Subscription or its package,
followed by the end of the message, a white space, a comma or a colon. -/
def messageIncludesSubscription (sub : Subscription) (message : String) : Except String Bool :=
  matchString (subscriptionPattern sub) message

/-! ## The parser on quoted text -/

/-- Append the characters of `s` to the concatenation being read, as literals. -/
def Frame.pushLits (f : Frame) (s : List Char) : Frame := { f with seq := f.seq ++ s.map .lit }

@[simp] theorem Frame.pushLits_nil (f : Frame) : f.pushLits [] = f := by simp [Frame.pushLits]

theorem Frame.push_pushLits (f : Frame) (c : Char) (s : List Char) :
    (f.push (.lit c)).pushLits s = f.pushLits (c :: s) := by
  simp [Frame.push, Frame.pushLits]

theorem quoteChars_cons (c : Char) (s : List Char) :
    quoteChars (c :: s) = (if isRegexSpecial c then ['\\', c] else [c]) ++ quoteChars s := by
  simp [quoteChars]

/-- The characters the parser treats specially on their own are all escaped by `QuoteMeta`. -/
theorem ne_of_isRegexSpecial_eq_false {c : Char} (hc : isRegexSpecial c = false) :
    c ≠ '\\' ∧ c ≠ '(' ∧ c ≠ ')' ∧ c ≠ '|' ∧ c ≠ '$' := by
  simp only [isRegexSpecial, regexSpecials, List.contains, List.elem_eq_mem, decide_eq_false_iff_not,
    List.mem_cons, List.mem_singleton, not_or, List.not_mem_nil] at hc
  tauto

/-- Every character `QuoteMeta` escapes is punctuation the parser reads back as a literal. -/
theorem escapable_of_mem_regexSpecials : ∀ c ∈ regexSpecials, c ≠ 's' ∧ isEscapablePunct c = true := by
  decide

theorem parseAux_nil (top : Frame) (stack : List Frame) :
    parseAux [] top stack = if stack.isEmpty then some top.close else none := rfl

/-- One step of the parser on a character, as the definition reads. It holds by computation once
the lookahead is split, which is much cheaper than unfolding the definition's nested matches. -/
theorem parseAux_cons (c : Char) (cs : List Char) (top : Frame) (stack : List Frame) :
    parseAux (c :: cs) top stack =
      if c = '\\' then
        match cs with
        | d :: cs =>
          if d = 's' then parseAux cs (top.push .space) stack
          else if isEscapablePunct d then parseAux cs (top.push (.lit d)) stack else none
        | [] => none
      else if c = '(' then
        match cs with
        | d :: cs =>
          match cs with
          | e :: cs => if d = '?' ∧ e = ':' then parseAux cs {} (top :: stack) else none
          | [] => none
        | [] => none
      else if c = ')' then
        match stack with
        | outer :: stack => parseAux cs (outer.push top.close) stack
        | [] => none
      else if c = '|' then parseAux cs top.bar stack
      else if c = '$' then parseAux cs (top.push .endText) stack
      else if isRegexSpecial c then none
      else parseAux cs (top.push (.lit c)) stack := by
  rcases cs with _ | ⟨d, _ | ⟨e, cs⟩⟩ <;> rfl

theorem parseAux_lit {c : Char} (hc : isRegexSpecial c = false) (cs : List Char) (top : Frame)
    (stack : List Frame) : parseAux (c :: cs) top stack = parseAux cs (top.push (.lit c)) stack := by
  obtain ⟨h1, h2, h3, h4, h5⟩ := ne_of_isRegexSpecial_eq_false hc
  rw [parseAux_cons]
  simp only [h1, h2, h3, h4, h5, hc, if_false, Bool.false_eq_true]

theorem parseAux_escaped {c : Char} (hc : isRegexSpecial c = true) (cs : List Char) (top : Frame)
    (stack : List Frame) :
    parseAux ('\\' :: c :: cs) top stack = parseAux cs (top.push (.lit c)) stack := by
  obtain ⟨hs, hp⟩ := escapable_of_mem_regexSpecials c (by simpa [isRegexSpecial] using hc)
  rw [parseAux_cons]
  simp only [hs, hp, if_true, if_false]

/-- **Quoting round trip.** Parsing `QuoteMeta s` reads exactly the characters of `s`, each as a
literal, whatever they are. -/
theorem parseAux_quoteChars (s cs : List Char) (top : Frame) (stack : List Frame) :
    parseAux (quoteChars s ++ cs) top stack = parseAux cs (top.pushLits s) stack := by
  induction s generalizing top with
  | nil => simp [quoteChars]
  | cons c s ih =>
    rw [quoteChars_cons, List.append_assoc, ← Frame.push_pushLits, ← ih]
    cases hc : isRegexSpecial c
    · exact parseAux_lit hc _ _ _
    · exact parseAux_escaped hc _ _ _

theorem parseAux_group (cs : List Char) (top : Frame) (stack : List Frame) :
    parseAux ('(' :: '?' :: ':' :: cs) top stack = parseAux cs {} (top :: stack) := by
  rw [parseAux_cons]; rfl

theorem parseAux_close (cs : List Char) (top outer : Frame) (stack : List Frame) :
    parseAux (')' :: cs) top (outer :: stack) = parseAux cs (outer.push top.close) stack := by
  rw [parseAux_cons]; rfl

theorem parseAux_bar (cs : List Char) (top : Frame) (stack : List Frame) :
    parseAux ('|' :: cs) top stack = parseAux cs top.bar stack := by
  rw [parseAux_cons]; rfl

theorem parseAux_endText (cs : List Char) (top : Frame) (stack : List Frame) :
    parseAux ('$' :: cs) top stack = parseAux cs (top.push .endText) stack := by
  rw [parseAux_cons]; rfl

theorem parseAux_space (cs : List Char) (top : Frame) (stack : List Frame) :
    parseAux ('\\' :: 's' :: cs) top stack = parseAux cs (top.push .space) stack := by
  rw [parseAux_cons]; rfl

theorem parseAux_slash (cs : List Char) (top : Frame) (stack : List Frame) :
    parseAux ('\\' :: '/' :: cs) top stack = parseAux cs (top.push (.lit '/')) stack := by
  rw [parseAux_cons]; rfl

/-! ## The pattern of a Subscription -/

/-- The literals of a string. -/
def lits (s : List Char) : List Regex := s.map .lit

/-- One alternative of the pattern: a keyword followed by a name, alone or after the namespace
and a slash. -/
def mentionRegex (keyword ns name : List Char) : Regex :=
  catOf (lits keyword ++ [altOf [catOf (lits name), catOf (lits ns ++ [.lit '/'] ++ lits name)]])

/-- What the pattern requires after a mention: `(?:$|\s|,|:)`. -/
def terminatorRegex : Regex := altOf [.endText, .space, .lit ',', .lit ':']

/-- The expression the pattern of `messageIncludesSubscription` parses to. -/
def subscriptionRegex (sub : Subscription) : Regex :=
  .cat (altOf [mentionRegex "subscription ".toList sub.namespace.toList sub.name.toList,
      mentionRegex "package ".toList sub.namespace.toList sub.spec.package.toList])
    terminatorRegex

theorem subscriptionPattern_toList (sub : Subscription) :
    (subscriptionPattern sub).toList =
      "(?:subscription (?:".toList ++ quoteChars sub.name.toList ++ ['|'] ++
        quoteChars sub.namespace.toList ++ ['\\', '/'] ++ quoteChars sub.name.toList ++
        ")|package (?:".toList ++ quoteChars sub.spec.package.toList ++ ['|'] ++
        quoteChars sub.namespace.toList ++ ['\\', '/'] ++ quoteChars sub.spec.package.toList ++
        "))(?:$|\\s|,|:)".toList := by
  simp only [subscriptionPattern, quoteMeta, String.toList, String.data_append, List.append_assoc]

/-- The pattern always parses, to `subscriptionRegex`. -/
theorem parse_subscriptionPattern (sub : Subscription) :
    parse (subscriptionPattern sub) = some (subscriptionRegex sub) := by
  rw [parse, subscriptionPattern_toList]
  simp only [List.append_assoc, List.cons_append, List.nil_append, String.toList, String.data]
  simp (disch := decide) only [parseAux_lit, parseAux_quoteChars, parseAux_group, parseAux_close,
    parseAux_bar, parseAux_endText, parseAux_space, parseAux_slash, List.cons_append, List.nil_append]
  simp [parseAux_nil, Frame.push, Frame.bar, Frame.close, Frame.pushLits, subscriptionRegex, mentionRegex,
    terminatorRegex, lits, catOf, altOf]

/-! ## What the expressions match -/

section Matching

variable {r s : Regex} {c : Char} {t t' : List Char}

@[simp] theorem Regex.mem_matchAt_empty : t' ∈ Regex.empty.matchAt t ↔ t' = t := by
  simp [Regex.matchAt]

@[simp] theorem Regex.mem_matchAt_lit : t' ∈ (Regex.lit c).matchAt t ↔ t = c :: t' := by
  cases t with
  | nil => simp [Regex.matchAt]
  | cons d t =>
    by_cases h : d = c
    · subst h; simp [Regex.matchAt, eq_comm]
    · simp [Regex.matchAt, h, Ne.symm h]

@[simp] theorem Regex.mem_matchAt_cat : t' ∈ (r.cat s).matchAt t ↔ ∃ u ∈ r.matchAt t, t' ∈ s.matchAt u := by
  simp [Regex.matchAt]

@[simp] theorem Regex.mem_matchAt_alt : t' ∈ (r.alt s).matchAt t ↔ t' ∈ r.matchAt t ∨ t' ∈ s.matchAt t := by
  simp [Regex.matchAt]

theorem mem_matchAt_catOf_cons {rs : List Regex} :
    t' ∈ (catOf (r :: rs)).matchAt t ↔ ∃ u ∈ r.matchAt t, t' ∈ (catOf rs).matchAt u := by
  cases rs with
  | nil => simp [catOf]
  | cons r' rs => simp [catOf]

/-- A concatenation that starts with literals matches them first. -/
theorem mem_matchAt_catOf_lits_append {w : List Char} {rs : List Regex} :
    t' ∈ (catOf (lits w ++ rs)).matchAt t ↔ ∃ u, t = w ++ u ∧ t' ∈ (catOf rs).matchAt u := by
  induction w generalizing t with
  | nil => simp [lits]
  | cons d w ih =>
    simp only [lits, List.map_cons, List.cons_append] at ih ⊢
    simp only [mem_matchAt_catOf_cons, Regex.mem_matchAt_lit, ih]
    constructor
    · rintro ⟨_, rfl, u, rfl, h⟩
      exact ⟨u, rfl, h⟩
    · rintro ⟨u, rfl, h⟩
      exact ⟨_, rfl, u, rfl, h⟩

theorem mem_matchAt_catOf_lits {w : List Char} : t' ∈ (catOf (lits w)).matchAt t ↔ t = w ++ t' := by
  simpa [catOf] using @mem_matchAt_catOf_lits_append t t' w []

theorem mem_matchAt_mentionRegex {keyword ns name : List Char} :
    t' ∈ (mentionRegex keyword ns name).matchAt t ↔
      t = keyword ++ name ++ t' ∨ t = keyword ++ ns ++ '/' :: name ++ t' := by
  have hlits : lits ns ++ [.lit '/'] ++ lits name = lits (ns ++ '/' :: name) := by simp [lits]
  simp [mentionRegex, mem_matchAt_catOf_lits_append, catOf, altOf, hlits, mem_matchAt_catOf_lits,
    and_or_left, exists_or]

/-- Search finds a match starting at some position of the text. -/
theorem Regex.search_iff {t : List Char} :
    r.search t = true ↔ ∃ pre suf u, t = pre ++ suf ∧ u ∈ r.matchAt suf := by
  induction t with
  | nil =>
    simp only [Regex.search, Bool.not_eq_true', List.isEmpty_eq_false_iff_exists_mem,
      List.nil_eq_append_iff]
    constructor
    · rintro ⟨u, hu⟩
      exact ⟨[], [], u, ⟨rfl, rfl⟩, hu⟩
    · rintro ⟨_, _, u, ⟨rfl, rfl⟩, hu⟩
      exact ⟨u, hu⟩
  | cons d t ih =>
    simp only [Regex.search, Bool.or_eq_true, Bool.not_eq_true', List.isEmpty_eq_false_iff_exists_mem,
      ih, List.cons_eq_append_iff]
    constructor
    · rintro (⟨u, hu⟩ | ⟨pre, suf, u, rfl, hu⟩)
      · exact ⟨[], d :: t, u, .inl ⟨rfl, rfl⟩, hu⟩
      · exact ⟨d :: pre, suf, u, .inr ⟨pre, rfl, rfl⟩, hu⟩
    · rintro ⟨pre, suf, u, ⟨rfl, rfl⟩ | ⟨pre', rfl, rfl⟩, hu⟩
      · exact .inl ⟨u, hu⟩
      · exact .inr ⟨pre', suf, u, rfl, hu⟩

end Matching

/-! ## Which messages mention a Subscription -/

/-- The four mentions of a Subscription a resolution failure can make: `subscription n`,
`subscription ns/n`, `package p` and `package ns/p`. -/
def subscriptionMentions (sub : Subscription) : List (List Char) :=
  [("subscription " ++ sub.name).toList, ("subscription " ++ sub.namespace ++ "/" ++ sub.name).toList,
    ("package " ++ sub.spec.package).toList,
    ("package " ++ sub.namespace ++ "/" ++ sub.spec.package).toList]

/-- Whether a mention followed by `rest` ends where it should: at the end of the message, or
before a white space (space, tab, newline, form feed, carriage return), a comma or a colon. -/
def mentionTerminated : List Char → Bool
  | [] => true
  | c :: _ => [' ', '\t', '\n', '\x0c', '\r', ',', ':'].contains c

theorem mem_matchAt_mentions {sub : Subscription} {t t' : List Char} :
    t' ∈ (altOf [mentionRegex "subscription ".toList sub.namespace.toList sub.name.toList,
      mentionRegex "package ".toList sub.namespace.toList sub.spec.package.toList]).matchAt t ↔
      ∃ w ∈ subscriptionMentions sub, t = w ++ t' := by
  simp [altOf, mem_matchAt_mentionRegex, subscriptionMentions, String.toList, String.data_append, or_assoc]

theorem terminatorRegex_matches {t : List Char} :
    (∃ u, u ∈ terminatorRegex.matchAt t) ↔ mentionTerminated t = true := by
  cases t with
  | nil => simp [terminatorRegex, altOf, Regex.matchAt, mentionTerminated]
  | cons d t =>
    simp only [terminatorRegex, altOf, Regex.mem_matchAt_alt, Regex.mem_matchAt_lit, Regex.matchAt,
      isGoSpace, mentionTerminated]
    simp [← or_and_right, or_assoc]

/-- **Which messages match.** For every Subscription, whatever characters its name, namespace and
package hold, and every message, `messageIncludesSubscription` answers without an error, and it
answers `true` exactly when the message contains one of the four mentions followed by the end of
the message, a white space, a comma or a colon. -/
theorem messageIncludesSubscription_iff (sub : Subscription) (message : String) :
    ∃ b, messageIncludesSubscription sub message = .ok b ∧
      (b = true ↔ ∃ pre w post, message.toList = pre ++ w ++ post ∧
        w ∈ subscriptionMentions sub ∧ mentionTerminated post = true) := by
  refine ⟨(subscriptionRegex sub).search message.toList,
    by simp only [messageIncludesSubscription, matchString, parse_subscriptionPattern], ?_⟩
  simp only [Regex.search_iff, subscriptionRegex, Regex.mem_matchAt_cat]
  constructor
  · rintro ⟨pre, suf, u, ht, v, hv, hu⟩
    obtain ⟨w, hw, rfl⟩ := mem_matchAt_mentions.1 hv
    exact ⟨pre, w, v, by rw [ht, List.append_assoc], hw, terminatorRegex_matches.1 ⟨u, hu⟩⟩
  · rintro ⟨pre, w, post, ht, hw, hpost⟩
    obtain ⟨u, hu⟩ := terminatorRegex_matches.2 hpost
    exact ⟨pre, w ++ post, u, by rw [ht, List.append_assoc], post,
      mem_matchAt_mentions.2 ⟨w, hw, rfl⟩, hu⟩

end OperatorPolicyController
