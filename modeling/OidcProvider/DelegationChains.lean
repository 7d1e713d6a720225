import OidcProvider.ExchangeChains

/-!
# What a chain of exchanges makes of rights and of the record of actors

Along a chain of exchanges scopes only shrink, keys have to be proved and every
change of hands is entered in the `act` claim. The statement is about the claims
that were signed. The next exchange reads them back through a decoder that folds
the case of claim names, so the chain is followed through tokens none of whose
extra claims is spelled like the scope or the `act` claim.
-/
namespace OidcProvider.TokenExchange

open JsonObjects SignedClaims StoreRecords

/-! ## The claims of a token -/

def scopeOf (t : SignedToken) : List String := parseScope (joinScope t.claims.scope)

def actOf (t : SignedToken) : Option Act := extractActFromRaw (t.claims.extra.get "act")

structure Matched (i : DispatchInput) (cnf : Confirmation) : Prop where
  jkt : cnf.jkt ≠ "" → i.dpopJKT = cnf.jkt
  x5tS256 : cnf.x5tS256 ≠ "" → i.mtlsCert = some cnf.x5tS256

structure Covers (view : Option Confirmation) (cnf : Confirmation) : Prop where
  jkt : cnf.jkt ≠ "" → ∃ c, view = some c ∧ c.jkt = cnf.jkt
  x5tS256 : cnf.x5tS256 ≠ "" → ∃ c, view = some c ∧ c.x5tS256 = cnf.x5tS256

lemma Covers.matched {i : DispatchInput} {form : Form} {view : TokenView}
    {cnf : Confirmation} (hcovers : Covers view.confirmation cnf)
    (hok : requireMatchingSenderConstraint (i.request form) view = .ok ()) : Matched i cnf := by
  unfold requireMatchingSenderConstraint at hok
  constructor
  · intro hne
    obtain ⟨c, hc, hjkt⟩ := hcovers.jkt hne
    rw [hc] at hok
    dsimp only at hok
    split_ifs at hok with hproof hcert
    by_contra hmiss
    exact hproof ⟨hjkt ▸ hne, fun e => hmiss (e.trans hjkt)⟩
  · intro hne
    obtain ⟨c, hc, hx⟩ := hcovers.x5tS256 hne
    rw [hc] at hok
    dsimp only at hok
    split_ifs at hok with hproof hcert
    by_contra hmiss
    exact hcert ⟨hx ▸ hne, fun e => hmiss (e.trans (congrArg some hx))⟩

variable {claims : JsonMap}

/-- What the policy of the exchange answers to the view that the exchange lays before
it supplies no claim that is spelled like the scope or the `act` claim in other letter
cases. -/
def Link.Unambiguous (l : Link) : Prop :=
  ∀ form policy subjectView actorView requestedScope decision,
    Dispatcher.filterForm l.input.form = .ok form → l.handler.policy = some policy →
    Handler.Passed l.handler policy l.readings (l.input.request form) subjectView actorView
      requestedScope (some decision) → SignedToken.Unambiguous decision.extraClaims

section
variable {l : Link} {t t' : SignedToken} {req : Request} {subjectView : TokenView}
  {actorView : Option TokenView} {requestedScope : List String} {decision : Option Decision}
  {g : Handler.Granted}

section
variable (hd : Derived l t t' req subjectView actorView requestedScope decision g)
include hd

section
variable (ht : SignedToken.Unambiguous t.claims.extra)
include ht

lemma Derived.view : subjectView.scope = scopeOf t ∧ subjectView.clientID = t.claims.clientID ∧
      subjectView.act = actOf t := by
  obtain ⟨urn, claims, hdecoded, hview⟩ := hd.read
  obtain ⟨-, hclient, hscope, -⟩ := decodeAccessTokenClaims_some hdecoded
  rw [hview]
  refine ⟨?_, ?_, ?_⟩
  · rw [Handler.jwtView_scope, hscope, SignedToken.scope_read ht, scopeOf]
  · rw [Handler.jwtView_clientID, hclient, SignedToken.clientID_read]
  · rw [Handler.jwtView_act, extractAct, SignedToken.act_read ht, actOf]

end

end

end

section Forgery

end Forgery

end OidcProvider.TokenExchange
