import DrachtioModules.Percent
import DrachtioModules.Regex
import Mathlib.Data.Nat.Digits.Defs

/-!
# parse_ws_uri

How mod_audio_fork takes a websocket address apart.  One regular expression
finds host, port and path, and its host group is lazy: the host ends where the
rest of the text first looks like a port and a path, and the colon before the
port is optional.
-/

namespace DrachtioModules.AudioFork

open Percent (ascii)
open Regex (Pattern Position)

/-- The flags of `lws_client_connect_info::ssl_connection`. -/
inductive SslFlag where
  | useSsl
  | allowSelfsigned
  | skipServerCertHostnameCheck
  | allowExpired
  deriving DecidableEq, Repr

/-- The channel vars that `parse_ws_uri` looks at. -/
structure SslVariables where
  allowSelfsigned : Bool
  skipServerCertHostnameCheck : Bool
  allowExpired : Bool
  deriving DecidableEq, Repr

def SslVariables.flags (vars : SslVariables) : List SslFlag :=
  .useSsl ::
    ((if vars.allowSelfsigned then [.allowSelfsigned] else []) ++
      (if vars.skipServerCertHostnameCheck
        then [.skipServerCertHostnameCheck] else []) ++
      (if vars.allowExpired then [.allowExpired] else []))

def maxWsUrlLen : Nat := 512

def maxPathLen : Nat := 4096

structure ParsedUri where
  host : List UInt8
  path : List UInt8
  port : Nat
  sslFlags : List SslFlag
  deriving DecidableEq, Repr

/-- The offset behind the scheme, the flags and the default port. -/
def parseScheme (vars : SslVariables) (server : List UInt8) :
    Option (Nat × List SslFlag × Nat) :=
  if (ascii "https://").isPrefixOf server ||
      (ascii "HTTPS://").isPrefixOf server then
    some (8, vars.flags, 443)
  else if (ascii "wss://").isPrefixOf server ||
      (ascii "WSS://").isPrefixOf server then
    some (6, vars.flags, 443)
  else if (ascii "http://").isPrefixOf server ||
      (ascii "HTTP://").isPrefixOf server then
    some (7, [], 80)
  else if (ascii "ws://").isPrefixOf server ||
      (ascii "WS://").isPrefixOf server then
    some (5, [], 80)
  else none

/-- `.` matches anything but a line terminator. -/
def isDot (byte : UInt8) : Bool := byte != 10 && byte != 13

def isDigit (byte : UInt8) : Bool := 48 ≤ byte && byte ≤ 57

/-- `:?` -/
def optionalColon : Pattern UInt8 := .repeated 0 (some 1) true (.char (· == 58))

/-- `(\d+)?` -/
def optionalPort : Pattern UInt8 :=
  .repeated 0 (some 1) true (.group 2 (.repeated 1 none true (.char isDigit)))

/-- `(/.*)?` -/
def optionalPath : Pattern UInt8 :=
  .repeated 0 (some 1) true
    (.group 3 (.seq (.char (· == 47)) (.repeated 0 none true (.char isDot))))

/-- `^(.+?):?(\d+)?(/.*)?$` -/
def re : Pattern UInt8 :=
  .seq .start
    (.seq (.group 1 (.repeated 1 none false (.char isDot)))
      (.seq optionalColon (.seq optionalPort (.seq optionalPath .stop))))

def number (digits : List UInt8) : Nat :=
  digits.foldl (fun value digit => 10 * value + (digit.toNat - 48)) 0

/-- `atoi` of a string of digits, as an `unsigned int`: the low 32 bits of what
`strtol` returns, which is `LONG_MAX` at most. -/
def atoi (digits : List UInt8) : Nat :=
  min (number digits) (2 ^ 63 - 1) % 2 ^ 32

def parseWsUri (vars : SslVariables) (szServerUri : List UInt8) :
    Option ParsedUri :=
  if maxWsUrlLen + maxPathLen ≤ szServerUri.length then none
  else
    match parseScheme vars szServerUri with
    | none => none
    | some (offset, sslFlags, port) =>
        match re.search (szServerUri.drop offset) with
        | none => none
        | some groups =>
            let str := fun number => (groups number).getD []
            some
              { host := (str 1).take (maxWsUrlLen - 1)
                path := if 0 < (str 3).length then
                    (str 3).take (maxPathLen - 1)
                  else ascii "/"
                port := if 0 < (str 2).length then atoi (str 2) else port
                sslFlags := sslFlags }

abbrev Groups := Nat → Option (List UInt8)

/-- What the whole match captured. -/
def captured (x : Position UInt8) : Option Groups := some x.captures

/-- A path, or none, as it stands at the end of an address. -/
def PathText : Option (List UInt8) → Prop
  | none => True
  | some path => ∃ rest, path = 47 :: rest ∧ ∀ c ∈ path, isDot c = true

section Tail

variable {x : Position UInt8}

/-- `(/.*)?$` -/
def pathEnd : Pattern UInt8 := .seq optionalPath .stop

/-- `(\d+)?(/.*)?$` -/
def portPathEnd : Pattern UInt8 := .seq optionalPort pathEnd

/-- `:?(\d+)?(/.*)?$` -/
def colonPortPathEnd : Pattern UInt8 := .seq optionalColon portPathEnd

theorem optionalPath_skips {k : Position UInt8 → Option Groups}
    (other : ∀ c ∈ x.rest.head?, c ≠ 47) : optionalPath.exec x k = k x := by
  apply Regex.exec_optional_none [3] rfl
  rw [Regex.exec_group, Regex.exec_seq]
  cases here : x.rest with
  | nil => exact Regex.exec_char_nil here
  | cons c rest =>
      have no_slash : c ≠ 47 := other c (by simp [here])
      have going : (x.clear [3]).rest = c :: rest := here
      rw [Regex.exec_char going]
      simp [no_slash]

theorem pathEnd_none {c : UInt8} {rest : List UInt8} (here : x.rest = c :: rest)
    (other : c ≠ 47) : pathEnd.exec x captured = none := by
  unfold pathEnd
  rw [Regex.exec_seq, optionalPath_skips (by simpa [here] using other)]
  simp [here]

/-- The groups a repetition forgets were not set. -/
theorem clear_unset {number : Nat} (unset : x.captures number = none) :
    x.clear [number] = x := by
  obtain ⟨index, rest, captures⟩ := x
  have same : (fun other => if other ∈ [number] then none
      else captures other) = captures := by
    funext other
    by_cases here : other = number
    · subst here
      simpa using unset.symm
    · simp [here]
  simp only [Position.clear, same]

theorem pathEnd_some {path : Option (List UInt8)} (text : PathText path)
    (here : x.rest = path.getD []) (unset : x.captures 3 = none) :
    pathEnd.exec x captured = some (Function.update x.captures 3 path) := by
  unfold pathEnd
  rw [Regex.exec_seq]
  cases path with
  | none =>
      have empty : x.rest = [] := here
      rw [optionalPath_skips (by simp [empty]), Regex.exec_stop, if_pos empty]
      rw [← unset, Function.update_eq_self]
      rfl
  | some path =>
      obtain ⟨rest, rfl, dots⟩ := text
      have slash : x.rest = 47 :: rest := here
      apply Regex.exec_optional_some [3] rfl
      rw [clear_unset unset, Regex.exec_group, Regex.exec_seq,
        Regex.exec_char slash]
      apply Regex.exec_greedy_star rest.length
      · simp [Position.advance, slash]
      · intro c member
        apply dots c
        apply List.mem_cons_of_mem
        simpa [Position.advance, slash] using member
      · simp [Position.advance, slash]
      · simp [Position.advance, Position.capture, slash, captured,
          Nat.add_assoc, Nat.add_comm 1]

/-- A port, or none, before a path. -/
def PortText : Option (List UInt8) → Prop
  | none => True
  | some digits => digits ≠ [] ∧ ∀ c ∈ digits, isDigit c = true

theorem PathText.not_digit {path : Option (List UInt8)} (text : PathText path) :
    ∀ c ∈ (path.getD []).head?, isDigit c = false := by
  cases path with
  | none => simp
  | some path =>
      obtain ⟨rest, rfl, _⟩ := text
      intro c member
      obtain rfl : 47 = c := by simpa using member
      rfl

/-- Whatever digits are taken for a port, no path follows. -/
theorem portPathEnd_none
    (fails : ∀ count ≤ x.rest.length,
      (∀ c ∈ x.rest.take count, isDigit c = true) →
      ∃ c rest, x.rest.drop count = c :: rest ∧ c ≠ 47) :
    portPathEnd.exec x captured = none := by
  have skipped : pathEnd.exec x captured = none := by
    obtain ⟨c, rest, here, other⟩ := fails 0 (Nat.zero_le _) (by simp)
    exact pathEnd_none here other
  rw [← skipped]
  apply Regex.exec_optional_none [2] rfl
  rw [Regex.exec_group]
  apply Regex.exec_repeated_none
  intro count within digits _
  obtain ⟨c, rest, here, other⟩ := fails count within digits
  split
  · rfl
  · exact pathEnd_none here other

theorem portPathEnd_some {digits path : Option (List UInt8)}
    (port : PortText digits) (text : PathText path)
    (here : x.rest = digits.getD [] ++ path.getD [])
    (unset : x.captures 2 = none) (unset' : x.captures 3 = none) :
    portPathEnd.exec x captured =
      some (Function.update (Function.update x.captures 2 digits) 3 path) := by
  cases digits with
  | none =>
      have path_rest : x.rest = path.getD [] := here
      have found := pathEnd_some text path_rest unset'
      rw [← unset, Function.update_eq_self, ← found]
      apply Regex.exec_optional_none [2] rfl
      rw [clear_unset unset, Regex.exec_group]
      apply Regex.exec_repeated_none
      intro count within digits one
      cases begins : x.rest with
      | nil =>
          rw [begins] at within
          exact absurd (one.trans within) (by simp)
      | cons c rest =>
          have digit : isDigit c = true := by
            apply digits c
            rw [begins, ← Nat.sub_add_cancel one, List.take_succ_cons]
            exact List.mem_cons_self
          have other := text.not_digit c (by simp [← path_rest, begins])
          rw [digit] at other
          cases other
  | some digits =>
      obtain ⟨nonempty, all⟩ := port
      have both : x.rest = digits ++ path.getD [] := here
      have some_digit : digits.length ≠ 0 := by simpa using nonempty
      apply Regex.exec_optional_some [2] rfl
      rw [clear_unset unset, Regex.exec_group]
      apply Regex.exec_greedy_plus digits.length
      · omega
      · simp [both]
      · simpa [both] using all
      · simpa [both] using text.not_digit
      · have moved : (x.capture (x.advance digits.length) 2).index ≠
            x.index := by
          simp [Position.capture, Position.advance, nonempty]
        rw [if_neg moved]
        have group : (x.capture (x.advance digits.length) 2).captures =
            Function.update x.captures 2 (some digits) := by
          simp [Position.capture, Position.advance, both]
        rw [← group]
        apply pathEnd_some text
        · simp [Position.capture, Position.advance, both]
        · rw [group]
          simpa using unset'

theorem optionalColon_skips (other : ∀ c ∈ x.rest.head?, c ≠ 58) :
    colonPortPathEnd.exec x captured = portPathEnd.exec x captured := by
  apply Regex.exec_optional_none [] rfl
  rw [Position.clear_nil]
  cases here : x.rest with
  | nil => exact Regex.exec_char_nil here
  | cons c rest =>
      have no_colon : c ≠ 58 := other c (by simp [here])
      rw [Regex.exec_char here]
      simp [no_colon]

theorem no_colon {digits path : Option (List UInt8)} (port : PortText digits)
    (text : PathText path) :
    ∀ c ∈ (digits.getD [] ++ path.getD []).head?, c ≠ 58 := by
  rintro c member rfl
  cases digits with
  | none =>
      cases path with
      | none => simp at member
      | some path =>
          obtain ⟨rest, rfl, _⟩ := text
          simp at member
  | some digits =>
      obtain ⟨nonempty, all⟩ := port
      obtain ⟨d, rest, rfl⟩ := List.exists_cons_of_ne_nil nonempty
      have digit := all d List.mem_cons_self
      obtain rfl : d = 58 := by simpa using member
      cases digit

theorem colonPortPathEnd_some {digits path : Option (List UInt8)} (colon : Bool)
    (port : PortText digits) (text : PathText path)
    (here : x.rest =
      (if colon then [58] else []) ++ digits.getD [] ++ path.getD [])
    (unset : x.captures 2 = none) (unset' : x.captures 3 = none) :
    colonPortPathEnd.exec x captured =
      some (Function.update (Function.update x.captures 2 digits) 3 path) := by
  cases colon with
  | true =>
      have begins : x.rest = 58 :: (digits.getD [] ++ path.getD []) := here
      have found := portPathEnd_some (x := x.advance 1) port text
        (Position.rest_advance begins) unset unset'
      apply Regex.exec_optional_some [] rfl
      rw [Position.clear_nil, Regex.exec_char begins]
      have moved : (x.advance 1).index ≠ x.index := Nat.succ_ne_self _
      simp only [beq_self_eq_true, if_true, if_neg moved]
      exact found
  | false =>
      have begins : x.rest = digits.getD [] ++ path.getD [] := here
      rw [optionalColon_skips]
      · exact portPathEnd_some port text begins unset unset'
      · rw [begins]
        exact no_colon port text

theorem colonPortPathEnd_none {tail after : List UInt8}
    (here : x.rest = tail ++ after) (nonempty : tail ≠ [])
    (plain : ∀ c ∈ tail, c ≠ 58 ∧ c ≠ 47)
    (blocked : (∃ c ∈ tail, isDigit c = false) ∨ ∃ rest, after = 58 :: rest) :
    colonPortPathEnd.exec x captured = none := by
  have later : ∀ count, (∀ c ∈ x.rest.take count, isDigit c = true) →
      ∃ c rest, x.rest.drop count = c :: rest ∧ c ≠ 47 := by
    intro count digits
    rcases Nat.lt_or_ge count tail.length with inside | beyond
    · -- a character of the tail comes next
      have left : tail.drop count ≠ [] := by simpa using inside
      obtain ⟨c, rest, cut⟩ := List.exists_cons_of_ne_nil left
      refine ⟨c, rest ++ after, ?_, ?_⟩
      · rw [here, List.drop_append_of_le_length (Nat.le_of_lt inside), cut]
        rfl
      · have member : c ∈ tail := by
          apply List.mem_of_mem_drop (i := count)
          rw [cut]
          exact List.mem_cons_self
        exact (plain c member).2
    · -- then the tail was digits, and the colon is next
      have covered : x.rest.take count =
          tail ++ after.take (count - tail.length) := by
        rw [here, List.take_append, List.take_of_length_le beyond]
      rw [covered] at digits
      rcases blocked with ⟨c, member, other⟩ | ⟨rest, rfl⟩
      · have digit := digits c (List.mem_append_left _ member)
        rw [other] at digit
        cases digit
      · cases more : count - tail.length with
        | zero =>
            refine ⟨58, rest, ?_, by decide⟩
            rw [here, List.drop_append, more, List.drop_of_length_le beyond]
            rfl
        | succ more' =>
            rw [more, List.take_succ_cons] at digits
            have digit := digits 58 (by simp)
            cases digit
  have head : ∀ c ∈ x.rest.head?, c ≠ 58 := by
    intro c member
    obtain ⟨d, rest, rfl⟩ := List.exists_cons_of_ne_nil nonempty
    have same : d = c := by simpa [here] using member
    rw [← same]
    exact (plain d List.mem_cons_self).1
  rw [optionalColon_skips head]
  exact portPathEnd_none fun count _ digits => later count digits

end Tail

/-- The host ends at the first place where the rest is a port and a path. -/
theorem search_re (colon : Bool) {text host : List UInt8}
    {digits path : Option (List UInt8)} (nonempty : host ≠ [])
    (dots : ∀ c ∈ host, isDot c = true)
    (port : PortText digits) (path_text : PathText path)
    (split : text = host ++
      ((if colon then [58] else []) ++ digits.getD [] ++ path.getD []))
    (before : ∀ (x : Position UInt8) (count : Nat), 1 ≤ count →
      count < host.length → x.rest = text.drop count →
      colonPortPathEnd.exec x captured = none) :
    re.search text = some (Function.update (Function.update
      (Function.update (fun _ => none) 1 (some host)) 2 digits) 3 path) := by
  apply Regex.search_start
  rw [Regex.exec_seq, Regex.exec_group]
  apply Regex.exec_lazy_plus host.length
  · exact List.length_pos_iff.mpr nonempty
  · simp [split]
  · simpa [split] using dots
  · intro count one shorter
    exact before _ count one shorter rfl
  · let x : Position UInt8 := ⟨0, text, fun _ => none⟩
    have group : (x.capture (x.advance host.length) 1).captures =
        Function.update (fun _ => none) 1 (some host) := by
      simp [x, Position.capture, Position.advance, split]
    show colonPortPathEnd.exec (x.capture (x.advance host.length) 1) captured =
      _
    rw [← group]
    apply colonPortPathEnd_some colon port path_text
    · simp [x, Position.capture, Position.advance, split]
    · rw [group]
      rfl
    · rw [group]
      rfl

/-- The scheme spellings that are accepted. -/
inductive Scheme where
  | https
  | httpsUpper
  | wss
  | wssUpper
  | http
  | httpUpper
  | ws
  | wsUpper
  deriving DecidableEq, Repr

def Scheme.text : Scheme → List UInt8
  | .https => ascii "https://"
  | .httpsUpper => ascii "HTTPS://"
  | .wss => ascii "wss://"
  | .wssUpper => ascii "WSS://"
  | .http => ascii "http://"
  | .httpUpper => ascii "HTTP://"
  | .ws => ascii "ws://"
  | .wsUpper => ascii "WS://"

def Scheme.secure : Scheme → Bool
  | .https | .httpsUpper | .wss | .wssUpper => true
  | .http | .httpUpper | .ws | .wsUpper => false

def Scheme.defaultPort (scheme : Scheme) : Nat :=
  if scheme.secure then 443 else 80

/-- A number as it is written. -/
def decimal (n : Nat) : List UInt8 :=
  (Nat.digits 10 n).reverse.map fun digit => (48 + digit).toUInt8

/-- What is put together to an address. -/
def uriText (scheme : Scheme) (host : List UInt8) (port : Option Nat)
    (path : Option (List UInt8)) : List UInt8 :=
  scheme.text ++ (host ++ ((port.map fun n => 58 :: decimal n).getD [] ++
    path.getD []))

structure WsUri where
  scheme : Scheme
  host : List UInt8
  port : Option Nat
  path : Option (List UInt8)
  named : host ≠ []
  hostShort : host.length < maxWsUrlLen
  plain : ∀ c ∈ host, c ≠ 58 ∧ c ≠ 47
  hostDots : ∀ c ∈ host, isDot c = true
  portRange : ∀ n ∈ port, 1 ≤ n ∧ n ≤ 65535
  pathText : PathText path
  pathShort : ∀ text ∈ path, text.length < maxPathLen
  short : (uriText scheme host port path).length < maxWsUrlLen + maxPathLen

def WsUri.text (uri : WsUri) : List UInt8 :=
  uriText uri.scheme uri.host uri.port uri.path

/-- The address is taken apart as it was put together. -/
def WsUri.RoundTrips (vars : SslVariables) (uri : WsUri) : Prop :=
  ∃ parsed, parseWsUri vars uri.text = some parsed ∧
    parsed.host = uri.host ∧
    parsed.port = uri.port.getD uri.scheme.defaultPort ∧
    parsed.path = uri.path.getD (ascii "/") ∧
    (SslFlag.useSsl ∈ parsed.sslFlags ↔ uri.scheme.secure = true)

theorem parseScheme_text (vars : SslVariables) (scheme : Scheme)
    (rest : List UInt8) :
    parseScheme vars (scheme.text ++ rest) =
      some (scheme.text.length, if scheme.secure then vars.flags else [],
        scheme.defaultPort) := by
  cases scheme <;> rfl

theorem number_digits {digits : List Nat} (small : ∀ d ∈ digits, d < 10) :
    number (digits.reverse.map fun digit => (48 + digit).toUInt8) =
      Nat.ofDigits 10 digits := by
  unfold number
  rw [List.foldl_map, List.foldl_reverse]
  induction digits with
  | nil => rfl
  | cons d digits ih =>
      obtain ⟨first, others⟩ := List.forall_mem_cons.mp small
      have value : (48 + d).toUInt8.toNat - 48 = d := by
        simp
        omega
      rw [List.foldr_cons, ih others, Nat.ofDigits_cons, value]
      omega

theorem atoi_decimal {n : Nat} (small : n ≤ 65535) : atoi (decimal n) = n := by
  have digits := number_digits fun d member =>
    Nat.digits_lt_base (b := 10) (m := n) (by decide) member
  rw [Nat.ofDigits_digits] at digits
  unfold atoi decimal
  rw [digits, Nat.min_eq_left (by omega), Nat.mod_eq_of_lt (by omega)]

theorem portText_decimal {n : Nat} (positive : 1 ≤ n) :
    PortText (some (decimal n)) := by
  constructor
  · simp [decimal, Nat.digits_ne_nil_iff_ne_zero]
    omega
  · intro c member
    obtain ⟨d, inside, rfl⟩ := List.mem_map.mp member
    have digits : ∀ d < 10, isDigit (48 + d).toUInt8 = true := by decide
    exact digits d (Nat.digits_lt_base (by decide) (List.mem_reverse.mp inside))

theorem parse_of_groups (vars : SslVariables) (uri : WsUri)
    {host : List UInt8} {digits : Option (List UInt8)} (port : PortText digits)
    (short : host.length < maxWsUrlLen)
    (found : re.search (uri.text.drop uri.scheme.text.length) =
      some (Function.update (Function.update
        (Function.update (fun _ => none) 1 (some host)) 2 digits) 3
          uri.path)) :
    parseWsUri vars uri.text = some
      { host := host
        path := uri.path.getD (ascii "/")
        port := (digits.map atoi).getD uri.scheme.defaultPort
        sslFlags := if uri.scheme.secure then vars.flags else [] } := by
  have fits : ¬ maxWsUrlLen + maxPathLen ≤ uri.text.length :=
    Nat.not_le.mpr uri.short
  have scheme : parseScheme vars uri.text = some (uri.scheme.text.length,
      if uri.scheme.secure then vars.flags else [], uri.scheme.defaultPort) :=
    parseScheme_text vars uri.scheme _
  have whole : host.take (maxWsUrlLen - 1) = host :=
    List.take_of_length_le (Nat.le_sub_one_of_lt short)
  have first : Function.update (Function.update
      (Function.update (fun _ => none) 1 (some host)) 2 digits) 3 uri.path 1 =
        some host := rfl
  have second : Function.update (Function.update
      (Function.update (fun _ => none) 1 (some host)) 2 digits) 3 uri.path 2 =
        digits := rfl
  have third : Function.update (Function.update
      (Function.update (fun _ => none) 1 (some host)) 2 digits) 3 uri.path 3 =
        uri.path := rfl
  have path : (if 0 < (uri.path.getD []).length then
      (uri.path.getD []).take (maxPathLen - 1) else ascii "/") =
        uri.path.getD (ascii "/") := by
    have text := uri.pathText
    have small := uri.pathShort
    cases given : uri.path with
    | none => rfl
    | some path =>
        rw [given] at text small
        obtain ⟨rest, rfl, _⟩ := text
        have fitting : (47 :: rest).length ≤ maxPathLen - 1 :=
          Nat.le_sub_one_of_lt (small _ rfl)
        have some_path : 0 < (47 :: rest).length := Nat.succ_pos _
        rw [Option.getD_some, Option.getD_some, if_pos some_path,
          List.take_of_length_le fitting]
  have port_value : (if 0 < (digits.getD []).length then
      atoi (digits.getD []) else uri.scheme.defaultPort) =
        (digits.map atoi).getD uri.scheme.defaultPort := by
    cases digits with
    | none => rfl
    | some digits => exact if_pos (List.length_pos_iff.mpr port.1)
  unfold parseWsUri
  rw [if_neg fits, scheme]
  simp only [found, first, second, third, Option.getD_some, whole, path,
    port_value]

theorem WsUri.text_rest (uri : WsUri) :
    uri.text.drop uri.scheme.text.length =
      uri.host ++ ((uri.port.map fun n => 58 :: decimal n).getD [] ++
        uri.path.getD []) :=
  List.drop_left' rfl

/-- Before the end of the host the expression does not match. -/
theorem host_goes_on {uri : WsUri} {after : List UInt8} {x : Position UInt8}
    {count : Nat} (shorter : count < uri.host.length)
    (here : x.rest = (uri.host ++ after).drop count)
    (blocked : (∃ c ∈ uri.host.drop count, isDigit c = false) ∨
      ∃ rest, after = 58 :: rest) :
    colonPortPathEnd.exec x captured = none := by
  have begins : x.rest = uri.host.drop count ++ after := by
    rw [here, List.drop_append_of_le_length (Nat.le_of_lt shorter)]
  apply colonPortPathEnd_none begins
  · simpa using shorter
  · intro c member
    exact uri.plain c (List.mem_of_mem_drop member)
  · exact blocked

theorem parse_ported (vars : SslVariables) {uri : WsUri} {n : Nat}
    (given : uri.port = some n) :
    parseWsUri vars uri.text = some
      { host := uri.host
        path := uri.path.getD (ascii "/")
        port := n
        sslFlags := if uri.scheme.secure then vars.flags else [] } := by
  have rest := uri.text_rest
  rw [given] at rest
  have port : PortText (some (decimal n)) :=
    portText_decimal (uri.portRange n given).1
  have found := search_re true uri.named uri.hostDots port
    uri.pathText rest (by
      intro x count _ shorter here
      rw [rest] at here
      exact host_goes_on shorter here (.inr ⟨_, rfl⟩))
  have parsed := parse_of_groups vars uri port uri.hostShort found
  rw [parsed, Option.map_some, Option.getD_some,
    atoi_decimal (uri.portRange n given).2]

/-- The shortest host that leaves nothing but digits for a port. -/
theorem exists_shortest {host : List UInt8} (named : host ≠ []) :
    ∃ count, 1 ≤ count ∧ count ≤ host.length ∧
      (∀ c ∈ host.drop count, isDigit c = true) ∧
      ∀ shorter, 1 ≤ shorter → shorter < count →
        ∃ c ∈ host.drop shorter, isDigit c = false := by
  have exists_one : ∃ count, 1 ≤ count ∧
      ∀ c ∈ host.drop count, isDigit c = true :=
    ⟨host.length, List.length_pos_iff.mpr named, by simp⟩
  refine ⟨Nat.find exists_one, (Nat.find_spec exists_one).1, ?_,
    (Nat.find_spec exists_one).2, ?_⟩
  · apply Nat.find_min' exists_one
    exact ⟨List.length_pos_iff.mpr named, by simp⟩
  · intro shorter one less
    have some_other := Nat.find_min exists_one less
    push Not at some_other
    obtain ⟨c, member, other⟩ := some_other one
    exact ⟨c, member, by simpa using other⟩

theorem parse_unported (vars : SslVariables) {uri : WsUri}
    (given : uri.port = none) {count : Nat} (one : 1 ≤ count)
    (within : count ≤ uri.host.length)
    (tail : ∀ c ∈ uri.host.drop count, isDigit c = true)
    (shortest : ∀ shorter, 1 ≤ shorter → shorter < count →
      ∃ c ∈ uri.host.drop shorter, isDigit c = false) :
    ∃ port, parseWsUri vars uri.text = some
      { host := uri.host.take count
        path := uri.path.getD (ascii "/")
        port := port
        sslFlags := if uri.scheme.secure then vars.flags else [] } ∧
      (count = uri.host.length → port = uri.scheme.defaultPort) := by
  have rest := uri.text_rest
  rw [given] at rest
  have front : uri.host.take count ≠ [] := by
    have some_host := List.length_pos_iff.mpr uri.named
    apply List.length_pos_iff.mp
    rw [List.length_take]
    omega
  have dots : ∀ c ∈ uri.host.take count, isDot c = true := fun c member =>
    uri.hostDots c (List.mem_of_mem_take member)
  have length : (uri.host.take count).length = count :=
    List.length_take_of_le within
  let digits : Option (List UInt8) :=
    if uri.host.drop count = [] then none else some (uri.host.drop count)
  have digits_eq : digits.getD [] = uri.host.drop count := by
    by_cases none : uri.host.drop count = [] <;> simp [digits, none]
  have port : PortText digits := by
    by_cases none : uri.host.drop count = []
    · simp [digits, none, PortText]
    · simp only [digits, if_neg none]
      exact ⟨none, tail⟩
  have split : uri.text.drop uri.scheme.text.length = uri.host.take count ++
      ((if false then [58] else []) ++ digits.getD [] ++ uri.path.getD []) := by
    rw [rest, digits_eq]
    simp [← List.append_assoc]
  have found := search_re false front dots port uri.pathText split (by
    intro x shorter one' less here
    rw [length] at less
    rw [rest] at here
    exact host_goes_on (by omega) here (.inl (shortest shorter one' less)))
  have short : (uri.host.take count).length < maxWsUrlLen :=
    (List.length_take_le _ _).trans_lt (length ▸ within.trans_lt uri.hostShort)
  refine ⟨_, parse_of_groups vars uri port short found, ?_⟩
  rintro rfl
  simp [digits]

/-- A port is given, or the host leaves nothing for one: it is a single
character or does not end in a digit. -/
def WsUri.Unambiguous (uri : WsUri) : Prop :=
  uri.port.isSome = true ∨ uri.host.length = 1 ∨
    ∀ c ∈ uri.host.getLast?, isDigit c = false

theorem getLast_of_drop {host : List UInt8} (count : Nat)
    (shorter : count < host.length) : ∃ c ∈ host.drop count,
      host.getLast? = some c := by
  have left : host.drop count ≠ [] := by simpa using shorter
  refine ⟨(host.drop count).getLast left, List.getLast_mem left, ?_⟩
  rw [List.getLast_drop]
  exact List.getLast?_eq_some_getLast _

/-- Exactly the unambiguous addresses come back as they were put together. -/
theorem round_trip_iff (vars : SslVariables) (uri : WsUri) :
    uri.RoundTrips vars ↔ uri.Unambiguous := by
  have tls : SslFlag.useSsl ∈ (if uri.scheme.secure then vars.flags else []) ↔
      uri.scheme.secure = true := by
    cases uri.scheme.secure <;> simp [SslVariables.flags]
  cases given : uri.port with
  | some n =>
      have parsed := parse_ported vars given
      constructor
      · intro _
        exact .inl (by rw [given]; rfl)
      · intro _
        exact ⟨_, parsed, rfl, by rw [given]; rfl, rfl, tls⟩
  | none =>
      obtain ⟨count, one, within, tail, shortest⟩ := exists_shortest uri.named
      obtain ⟨port, parsed, default⟩ :=
        parse_unported vars given one within tail shortest
      constructor
      · rintro ⟨other, parsed', host, _⟩
        obtain rfl := Option.some.inj (parsed.symm.trans parsed')
        have all : count = uri.host.length := by
          rw [← List.length_take_of_le within]
          exact congrArg List.length host
        right
        by_contra! ambiguous
        obtain ⟨several, c, last, digit⟩ := ambiguous
        obtain ⟨d, member, other⟩ :=
          shortest (uri.host.length - 1) (by omega) (by omega)
        obtain ⟨e, inside, ends⟩ := getLast_of_drop (uri.host.length - 1)
          (show _ < uri.host.length by omega)
        have single : (uri.host.drop (uri.host.length - 1)).length = 1 := by
          rw [List.length_drop]
          omega
        obtain ⟨f, equal⟩ := List.length_eq_one_iff.mp single
        rw [equal] at member inside
        obtain rfl := List.mem_singleton.mp member
        obtain rfl := List.mem_singleton.mp inside
        obtain rfl := Option.some.inj (last.symm.trans ends)
        exact digit other
      · intro unambiguous
        have all : count = uri.host.length := by
          rcases unambiguous with ported | single | last
          · rw [given] at ported
            cases ported
          · omega
          · by_contra other
            obtain ⟨c, member, ends⟩ :=
              getLast_of_drop count (Nat.lt_of_le_of_ne within other)
            have digit := tail c member
            rw [last c ends] at digit
            cases digit
        refine ⟨_, parsed, ?_, ?_, rfl, tls⟩
        · exact List.take_of_length_le all.ge
        · rw [given]
          exact default all

example : parseWsUri ⟨false, false, false⟩ (ascii "ws://a.b:8080/c") =
    some ⟨ascii "a.b", ascii "/c", 8080, []⟩ := by
  decide

/-- The address of an IPv4 host without a port: the end of the host is taken
for one. -/
theorem ipv4_host_split :
    ∃ uri : WsUri, uri.text = ascii "ws://10.0.0.15/a" ∧
      uri.host = ascii "10.0.0.15" ∧ uri.port = none ∧
      parseWsUri ⟨false, false, false⟩ uri.text =
        some ⟨ascii "10.0.0.", ascii "/a", 15, []⟩ ∧
      ¬ uri.RoundTrips ⟨false, false, false⟩ := by
  let uri : WsUri :=
    { scheme := .ws
      host := ascii "10.0.0.15"
      port := none
      path := some (ascii "/a")
      named := by decide
      hostShort := by decide
      plain := List.all_iff_forall_prop.mp (by decide)
      hostDots := List.all_eq_true.mp (by decide)
      portRange := by simp
      pathText := ⟨ascii "a", by decide, List.all_eq_true.mp (by decide)⟩
      pathShort := by
        rintro text ⟨⟩
        decide
      short := by decide }
  have parsed : parseWsUri ⟨false, false, false⟩ uri.text =
      some ⟨ascii "10.0.0.", ascii "/a", 15, []⟩ := by
    decide
  refine ⟨uri, by decide, rfl, rfl, parsed, ?_⟩
  rintro ⟨other, parsed', host, _⟩
  obtain rfl := Option.some.inj (parsed.symm.trans parsed')
  revert host
  decide

end DrachtioModules.AudioFork
