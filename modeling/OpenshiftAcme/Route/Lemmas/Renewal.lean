import OpenshiftAcme.Route.Status

/-!
This module contains the renewal policy of `needsCertKey` on a route whose certificate decodes and
matches the route's host: the certificate is expired outside its validity window, due in the last
third of its lifetime, drawn at random in the sixth before that, and not due earlier. With
`time.Sub` saturating and the lifetime divided by truncation, the instants at which the reason
does not depend on the draw form a set closed upwards from `NotBefore`.
-/

namespace OpenshiftAcme

namespace RouteController

variable (lib : Lib)

structure CertDecoded (r : Route) (c : Certificate) : Prop where
  tls : ∃ tls, r.spec.tls = some tls ∧ tls.key ≠ "" ∧ tls.certificate ≠ "" ∧
    lib.decodeCertificate tls.key tls.certificate = .ok c
  host : lib.verifyHostname c r.spec.host = true

def RenewsAt (r : Route) (t : Int) : Prop :=
  needsCertKey lib t r = .ok "Already expired" ∨ needsCertKey lib t r = .ok "In renewal period"

variable {lib} {r : Route} {c : Certificate}

theorem needsCertKey_of_certDecoded (h : CertDecoded lib r c) (t : Int) :
    needsCertKey lib t r = .ok
      (if !isValid c t then "Already expired"
      else if timeSub c.notAfter t ≤ (timeSub c.notAfter c.notBefore).tdiv 3 then "In renewal period"
      else if timeSub c.notAfter t ≤ (timeSub c.notAfter c.notBefore).tdiv 2 && lib.proactiveDraw t
        then "Proactive renewal"
      else "") := by
  obtain ⟨⟨tls, htls, hk, hc, hdec⟩, hhost⟩ := h
  simp only [needsCertKey, htls, hk, hc, hdec, hhost, decide_False, Bool.or_self, Bool.not_true,
    Bool.false_eq_true, if_false, apply_ite (Except.ok : String → Except Err String)]

theorem renewsAt_iff (h : CertDecoded lib r c) (t : Int) :
    RenewsAt lib r t ↔
      isValid c t = false ∨ timeSub c.notAfter t ≤ (timeSub c.notAfter c.notBefore).tdiv 3 := by
  rw [RenewsAt, needsCertKey_of_certDecoded h]
  by_cases hv : isValid c t <;> by_cases h3 : timeSub c.notAfter t ≤ (timeSub c.notAfter c.notBefore).tdiv 3 <;>
    simp [hv, h3]; split <;> decide

/--
On a route whose certificate decodes and matches its host, whatever the random draw: the instants
with a deterministic renewal reason are closed upwards from `NotBefore`, include every instant of
the last third of the lifetime, and no instant of its first half.
-/
theorem needsCertKey_renewal_window (h : CertDecoded lib r c) :
    (∀ t₁ t₂, c.notBefore ≤ t₁ → t₁ ≤ t₂ → RenewsAt lib r t₁ → RenewsAt lib r t₂) ∧
    (∀ t, isValid c t = true →
      timeSub c.notAfter t ≤ (timeSub c.notAfter c.notBefore).tdiv 3 → RenewsAt lib r t) ∧
    (∀ t, isValid c t = true →
      (timeSub c.notAfter c.notBefore).tdiv 2 < timeSub c.notAfter t → ¬RenewsAt lib r t) := by
  refine ⟨fun t₁ t₂ hb ht => ?_, fun t _ h3 => (renewsAt_iff h t).mpr (.inr h3), fun t hv h2 => ?_⟩
  · simp only [renewsAt_iff h, isValid, Bool.and_eq_false_iff, decide_eq_false_iff_not] at *
    unfold timeSub at *
    omega
  · rw [renewsAt_iff h, hv]
    simp only [Bool.true_eq_false, false_or, not_le]
    simp only [isValid, Bool.and_eq_true, decide_eq_true_eq] at hv
    have hL : 0 ≤ timeSub c.notAfter c.notBefore := by unfold timeSub; omega
    rw [Int.tdiv_eq_ediv hL (by decide)] at h2 ⊢
    omega

theorem needsCertKey_not_due (h : CertDecoded lib r c) {t : Int} (hv : isValid c t = true)
    (hrem : (c.notAfter - c.notBefore) / 2 < c.notAfter - t) : needsCertKey lib t r = .ok "" := by
  rw [needsCertKey_of_certDecoded h, hv]
  simp only [isValid, Bool.and_eq_true, decide_eq_true_eq] at hv
  have hL : 0 ≤ timeSub c.notAfter c.notBefore := by unfold timeSub; omega
  have h2 : (timeSub c.notAfter c.notBefore).tdiv 2 < timeSub c.notAfter t := by
    rw [Int.tdiv_eq_ediv hL (by decide)]
    unfold timeSub
    omega
  have h3 : (timeSub c.notAfter c.notBefore).tdiv 3 < timeSub c.notAfter t := by
    rw [Int.tdiv_eq_ediv hL (by decide)] at h2 ⊢
    omega
  simp [Int.not_le.mpr h2, Int.not_le.mpr h3]

def certLib : Lib :=
  { exampleLib with decodeCertificate := fun _ _ => .ok ⟨0, 90, ["www.example.com"]⟩ }

def tlsRoute : Route :=
  { meta := { ObjectMeta.named "web" with «namespace» := "acme", uid := "uid-web" }
    spec := { host := "www.example.com", path := "", «to» := ⟨"Service", "web"⟩,
              alternateBackends := [], port := none,
              tls := some ⟨"edge", "crt", "key", "Redirect"⟩ }
    status := ⟨[⟨"www.example.com", true⟩]⟩ }

theorem tlsRoute_renewal_window :
    CertDecoded certLib tlsRoute ⟨0, 90, ["www.example.com"]⟩ ∧
    (∀ t₁ t₂, (0 : Int) ≤ t₁ → t₁ ≤ t₂ → RenewsAt certLib tlsRoute t₁ → RenewsAt certLib tlsRoute t₂) ∧
    (∀ t, isValid ⟨0, 90, ["www.example.com"]⟩ t = true → timeSub 90 t ≤ (timeSub 90 0).tdiv 3 →
      RenewsAt certLib tlsRoute t) ∧
    (∀ t, isValid ⟨0, 90, ["www.example.com"]⟩ t = true → (timeSub 90 0).tdiv 2 < timeSub 90 t →
      ¬RenewsAt certLib tlsRoute t) :=
  have h : CertDecoded certLib tlsRoute ⟨0, 90, ["www.example.com"]⟩ :=
    ⟨⟨_, rfl, by decide, by decide, rfl⟩, rfl⟩
  ⟨h, needsCertKey_renewal_window h⟩

end RouteController

end OpenshiftAcme
