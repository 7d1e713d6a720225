import Mathlib.Data.List.Basic

/-!
# The client address behind trusted proxies

`Resolve` of `internal/proxy`: the peer's address, unless the peer is a trusted proxy. Then
`X-Forwarded-For` is walked from the right to the first address that is not trusted.
-/
namespace OidcProvider.ForwardedAddresses

abbrev Text := List Char

/-- What the source calls in the standard library. -/
structure Net (Addr : Type) where
  isSpace : Char → Bool
  toLower : Text → Text
  /-- the host of `SplitHostPort` -/
  splitHostPort : Text → Option Text
  parseAddr : Text → Option Addr
  unmap : Addr → Addr

/-- `cidrs` are the prefixes as the addresses they contain. -/
structure Trust (Addr : Type) where
  cidrs : List (Addr → Bool)
  allowedHosts : List Text

structure Request where
  remoteAddr : Text
  tls : Bool
  urlScheme : Text
  host : Text
  forwardedFor : List Text
  forwardedProto : List Text
  forwardedHost : List Text

structure Resolved (Addr : Type) where
  clientIP : Option Addr
  scheme : Text
  host : Text
  trusted : Bool

section Source
variable {Addr : Type} (net : Net Addr) (t : Trust Addr)

def Trust.isConfigured : Bool := !t.cidrs.isEmpty

def Trust.contains (addr : Addr) : Bool := t.cidrs.any (· addr)

def trimSpace (s : Text) : Text :=
  ((s.dropWhile net.isSpace).reverse.dropWhile net.isSpace).reverse

def Trust.hostAllowed (xfh : Text) : Bool :=
  t.allowedHosts.isEmpty ||
    t.allowedHosts.contains (net.toLower
      (if xfh.head? = some '[' then
        -- brackets are kept, a port after them goes
        if ']' ∈ xfh then xfh.takeWhile (· ≠ ']') ++ [']'] else xfh
      else if ':' ∈ xfh then ((xfh.reverse.dropWhile (· ≠ ':')).drop 1).reverse else xfh))

def parseForwardedToken (token : Text) : Option Addr :=
  let token := trimSpace net token
  if token = [] then none
  else
    let host := match net.splitHostPort token with
      | some host => host
      | none =>
        if token.head? = some '[' ∧ token.getLast? = some ']' then
          (token.drop 1).dropLast else token
    (net.parseAddr (trimSpace net host)).map net.unmap

def parseRemoteAddr (remote : Text) : Option Addr :=
  if remote = [] then none else parseForwardedToken net remote

/-- One round of the walk: empty and malformed tokens and trusted hops are passed over. -/
def untrusted (token : Text) : Option Addr :=
  if trimSpace net token = [] then none
  else (parseForwardedToken net (trimSpace net token)).filter fun addr => !t.contains addr

/-- The lines from the last, and each from its last comma. -/
def walkForwardedFor (values : List Text) : Option Addr :=
  values.reverse.findSome? fun line => (line.splitOn ',').reverse.findSome? (untrusted net t)

def firstForwardedValue (values : List Text) : Text :=
  ((values.flatMap (·.splitOn ',')).map (trimSpace net)).find? (· ≠ []) |>.getD []

def requestScheme (r : Request) : Text :=
  if r.tls then "https".toList else if r.urlScheme ≠ [] then r.urlScheme else "http".toList

def resolve (r : Request) : Resolved Addr :=
  let remote := parseRemoteAddr net r.remoteAddr
  if t.isConfigured && remote.any t.contains then
    let scheme := net.toLower (firstForwardedValue net r.forwardedProto)
    let host := firstForwardedValue net r.forwardedHost
    { clientIP := (walkForwardedFor net t r.forwardedFor).or remote
      scheme := if scheme = "http".toList ∨ scheme = "https".toList then scheme
        else requestScheme r
      host := if host ≠ [] ∧ t.hostAllowed net host then host else r.host
      trusted := true }
  else ⟨remote, requestScheme r, r.host, false⟩

end Source

/-! ### The walk over the joined header -/

section Walk
variable {Addr : Type} {net : Net Addr} {t : Trust Addr}

def tokens (values : List Text) : List Text := ([','].intercalate values).splitOn ','

lemma tokens_cons (line : Text) {values : List Text} (h : values ≠ []) :
    tokens (line :: values) = line.splitOn ',' ++ tokens values := by
  rw [tokens, List.intercalate_cons_of_ne_nil h, List.append_assoc, List.singleton_append,
    List.splitOn_append_cons_self, tokens]

variable (net t) in
/-- The lines do not matter, only what they join to. -/
theorem walkForwardedFor_eq (values : List Text) :
    walkForwardedFor net t values = (tokens values).reverse.findSome? (untrusted net t) := by
  induction values with
  | nil => simp [walkForwardedFor, tokens, untrusted, trimSpace]
  | cons line values ih =>
    cases values with
    | nil => simp [walkForwardedFor, tokens]
    | cons next values =>
      rw [tokens_cons line (List.cons_ne_nil _ _), List.reverse_append, List.findSome?_append,
        ← ih, walkForwardedFor, List.reverse_cons, List.findSome?_append, List.findSome?_singleton]
      rfl

variable (net) in
def address (token : Text) : Option Addr := parseForwardedToken net (trimSpace net token)

/-- `addr` is the right-most address among the tokens that is not trusted. -/
def RightMost (net : Net Addr) (t : Trust Addr) (suffix : List Text) (addr : Addr) : Prop :=
  ∃ left token right, suffix = left ++ token :: right ∧ address net token = some addr ∧
    t.contains addr = false ∧
    ∀ other ∈ right, ∀ addr', address net other = some addr' → t.contains addr' = true

lemma untrusted_eq_some {token : Text} {addr : Addr} :
    untrusted net t token = some addr ↔
      address net token = some addr ∧ t.contains addr = false := by
  unfold untrusted
  split_ifs with h
  · have hnone : parseForwardedToken net [] = none := rfl
    simp [address, h, hnone]
  · simp [address, Option.filter_eq_some_iff]

lemma findSome?_untrusted {suffix : List Text} {addr : Addr} :
    suffix.reverse.findSome? (untrusted net t) = some addr ↔ RightMost net t suffix addr := by
  rw [List.findSome?_eq_some_iff]
  constructor
  · rintro ⟨right, token, left, hsplit, htoken, hright⟩
    obtain ⟨haddress, htrust⟩ := untrusted_eq_some.mp htoken
    refine ⟨left.reverse, token, right.reverse, ?_, haddress, htrust,
      fun other hother addr' h => ?_⟩
    · rw [← List.reverse_reverse suffix, hsplit]
      simp
    · by_contra hout
      have hsome := untrusted_eq_some.mpr ⟨h, Bool.eq_false_iff.mpr hout⟩
      rw [hright other (List.mem_reverse.mp hother)] at hsome
      cases hsome
  · rintro ⟨left, token, right, rfl, haddress, htrust, hright⟩
    refine ⟨right.reverse, token, left.reverse, by simp, untrusted_eq_some.mpr ⟨haddress, htrust⟩,
      ?_⟩
    intro other hother
    rw [Option.eq_none_iff_forall_not_mem]
    intro addr' h
    obtain ⟨h, hout⟩ := untrusted_eq_some.mp h
    rw [hright other (List.mem_reverse.mp hother) addr' h] at hout
    cases hout

lemma walkForwardedFor_suffix {values : List Text} {suffix : List Text} {addr : Addr}
    (hsuffix : suffix <:+ tokens values) (h : RightMost net t suffix addr) :
    walkForwardedFor net t values = some addr := by
  obtain ⟨before, hbefore⟩ := hsuffix
  rw [walkForwardedFor_eq, ← hbefore, List.reverse_append, List.findSome?_append,
    findSome?_untrusted.mpr h, Option.some_or]

end Walk

def Trusted {Addr : Type} (net : Net Addr) (t : Trust Addr) (r : Request) : Prop :=
  ∃ peer, parseRemoteAddr net r.remoteAddr = some peer ∧ t.contains peer = true

section Resolve
variable {Addr : Type} {net : Net Addr} {t : Trust Addr} {r : Request}

lemma trusts_iff : (t.isConfigured && (parseRemoteAddr net r.remoteAddr).any t.contains) = true ↔
    Trusted net t r := by
  rw [Bool.and_eq_true, Option.any_eq_true]
  constructor
  · exact fun h => h.2
  · rintro ⟨peer, hpeer, h⟩
    refine ⟨?_, peer, hpeer, h⟩
    unfold Trust.contains at h
    unfold Trust.isConfigured
    cases hcidrs : t.cidrs <;> simp_all

lemma clientIP_of_trusted (h : Trusted net t r) : (resolve net t r).clientIP =
    (walkForwardedFor net t r.forwardedFor).or (parseRemoteAddr net r.remoteAddr) := by
  rw [resolve, if_pos (trusts_iff.mpr h)]

lemma resolve_of_not_trusted (h : ¬Trusted net t r) : resolve net t r =
    ⟨parseRemoteAddr net r.remoteAddr, requestScheme r, r.host, false⟩ := by
  rw [resolve, if_neg (mt trusts_iff.mp h)]

end Resolve

/-- Whatever the trust list: what two requests of a trusted peer have to the left of a common
suffix of tokens with an untrusted address in it has no influence on the client address, which
is the right-most such address; how the header is split into lines at its commas never has; and
no forwarded header has any where the peer is not trusted. -/
theorem client_address {Addr : Type} (net : Net Addr) (t : Trust Addr) :
    (∀ r r' : Request, r.remoteAddr = r'.remoteAddr → Trusted net t r →
      ∀ suffix, suffix <:+ tokens r.forwardedFor → suffix <:+ tokens r'.forwardedFor →
      (∃ token ∈ suffix, ∃ addr, address net token = some addr ∧ t.contains addr = false) →
      ∃ addr, RightMost net t suffix addr ∧ (resolve net t r).clientIP = some addr ∧
        (resolve net t r').clientIP = some addr) ∧
    (∀ (r : Request) (lines : List Text),
      [','].intercalate lines = [','].intercalate r.forwardedFor →
      resolve net t { r with forwardedFor := lines } = resolve net t r) ∧
    ∀ r r' : Request, r.remoteAddr = r'.remoteAddr → r.tls = r'.tls →
      r.urlScheme = r'.urlScheme → r.host = r'.host → ¬Trusted net t r →
      resolve net t r = resolve net t r' := by
  refine ⟨fun r r' hpeer htrusted suffix hs hs' ⟨token, htoken, hout⟩ => ?_, ?_, ?_⟩
  · have hfound : (suffix.reverse.findSome? (untrusted net t)).isSome = true := by
      obtain ⟨addr, h⟩ := hout
      rw [List.findSome?_isSome_iff]
      exact ⟨token, List.mem_reverse.mpr htoken,
        Option.isSome_iff_exists.mpr ⟨addr, untrusted_eq_some.mpr h⟩⟩
    obtain ⟨addr, haddr⟩ := Option.isSome_iff_exists.mp hfound
    have hright := findSome?_untrusted.mp haddr
    refine ⟨addr, hright, ?_, ?_⟩
    · rw [clientIP_of_trusted htrusted, walkForwardedFor_suffix hs hright, Option.some_or]
    · have htrusted' : Trusted net t r' := by
        unfold Trusted
        rw [← hpeer]
        exact htrusted
      rw [clientIP_of_trusted htrusted', walkForwardedFor_suffix hs' hright, Option.some_or]
  · intro r lines hlines
    have hwalk : walkForwardedFor net t lines = walkForwardedFor net t r.forwardedFor := by
      rw [walkForwardedFor_eq, walkForwardedFor_eq, tokens, tokens, hlines]
    unfold resolve
    dsimp only
    rw [hwalk]
    rfl
  · intro r r' hpeer htls hscheme hhost huntrusted
    have hscheme' : requestScheme r = requestScheme r' := by
      rw [requestScheme, requestScheme, htls, hscheme]
    rw [resolve_of_not_trusted huntrusted, hpeer, hscheme', hhost, resolve_of_not_trusted]
    unfold Trusted
    rw [← hpeer]
    exact huntrusted

/-- Every text is an address, without a port. -/
def bareNet : Net Text where
  isSpace c := c = ' '
  toLower s := s
  splitHostPort _ := none
  parseAddr s := some s
  unmap addr := addr

def proxies : Trust Text := ⟨[fun addr => addr.takeWhile (· ≠ '.') = "10".toList], []⟩

def forwarded (lines : List String) : Request :=
  ⟨"10.0.0.1".toList, false, [], [], lines.map String.toList, [], []⟩

/-- The client stands behind two proxies, and writes another address in front of its own. -/
theorem client_address_behind_proxies :
    (∃ addr, RightMost bareNet proxies [" 203.0.113.7".toList, "10.0.0.2".toList] addr ∧
      (resolve bareNet proxies (forwarded ["198.51.100.9, 203.0.113.7", "10.0.0.2"])).clientIP =
        some addr ∧
      (resolve bareNet proxies (forwarded [" 203.0.113.7,10.0.0.2"])).clientIP = some addr) ∧
    (resolve bareNet proxies (forwarded [" 203.0.113.7,10.0.0.2"])).clientIP =
      some "203.0.113.7".toList :=
  ⟨(client_address bareNet proxies).1 (forwarded ["198.51.100.9, 203.0.113.7", "10.0.0.2"])
      (forwarded [" 203.0.113.7,10.0.0.2"]) rfl ⟨"10.0.0.1".toList, by decide +kernel⟩ _
      ⟨["198.51.100.9".toList], by decide +kernel⟩ ⟨[], by decide +kernel⟩
      ⟨_, List.mem_cons_self, "203.0.113.7".toList, by decide +kernel⟩,
    by decide +kernel⟩

end OidcProvider.ForwardedAddresses
