import Mathlib
import SealedLicense.Proofs.KeyFile.Reading
import SealedLicense.Proofs.License.EndToEnd
import SealedLicense.Proofs.RSA.SelfCheck
import SealedLicense.Proofs.Sealing.Language

/-!
How signing, verification and opening end. The first stage that fails decides, whatever would fail behind it, and no
other errors come from them than those of these stages.
-/

namespace SealedLicense

/-- Ways to end of which one always applies, and each of which settles the outcome. -/
theorem Outcome.eq_iff_of_exists {α : Type} {ends : Outcome α → Prop} {outcome o : Outcome α} (htotal : ∃ o, ends o)
    (hsettled : ∀ {o}, ends o → outcome = o) : outcome = o ↔ ends o := by
  obtain ⟨o', ho'⟩ := htotal
  constructor
  · rintro rfl
    rwa [hsettled ho']
  · exact hsettled

def KeyHolder.Gives {κ : Type} (h : KeyHolder) (decode : Bytes → Passphrase → Except SigningError κ)
    (r : Except SigningError κ) : Prop :=
  ∃ file, h.file = .ok file ∧ decode file h.passphrase = r

theorem KeyHolder.cases_gives {κ : Type} (h : KeyHolder) (decode : Bytes → Passphrase → Except SigningError κ) :
    (∃ error, h.file = .error error) ∨ (∃ error, h.Gives decode (.error error)) ∨ ∃ k, h.Gives decode (.ok k) := by
  cases hfile : h.file with
  | error error => exact .inl ⟨error, rfl⟩
  | ok file =>
    cases hk : decode file h.passphrase with
    | error error => exact .inr (.inl ⟨error, file, hfile, hk⟩)
    | ok k => exact .inr (.inr ⟨k, file, hfile, hk⟩)

theorem KeyHolder.Gives.privateKeyFault {h : KeyHolder} {error : SigningError}
    (hk : h.Gives KeyFile.decodePrivateKey (.error error)) : ∃ fault, error = .inappropriateKey .privateKey fault := by
  obtain ⟨file, -, he⟩ := hk
  exact KeyFile.error_of_decodePrivateKey he

theorem KeyHolder.Gives.publicKeyFault {h : KeyHolder} {error : SigningError}
    (hk : h.Gives KeyFile.decodePublicKey (.error error)) : ∃ fault, error = .inappropriateKey .publicKey fault := by
  obtain ⟨file, -, he⟩ := hk
  exact KeyFile.error_of_decodePublicKey he

theorem Cipher.choose_of_not_printable {p : Option Passphrase} {q : Passphrase} (hq : q ∈ p) (h : ¬ q.Printable) :
    choose p = .error (.invalidKeySpec .unprintable) := by
  rw [Option.mem_def.1 hq]
  exact ofPassphrase_of_not_printable h

theorem sealBytes_of_not_printable {p : Option Passphrase} {q : Passphrase} (hq : q ∈ p) (h : ¬ q.Printable)
    (filler : Filler) (payload : Bytes) : sealBytes filler payload p = .error (.invalidKeySpec .unprintable) := by
  rw [sealBytes, Cipher.choose_of_not_printable hq h]
  rfl

theorem openBytes_of_not_printable {p : Option Passphrase} {q : Passphrase} (hq : q ∈ p) (h : ¬ q.Printable)
    (encrypted : Bytes) : openBytes encrypted p = .error (.invalidKeySpec .unprintable) := by
  rw [openBytes, Cipher.choose_of_not_printable hq h]
  rfl

theorem error_of_openBytes {p : Option Passphrase} (h : ∀ q ∈ p, q.Printable) {encrypted : Bytes} {error : SealError}
    (he : openBytes encrypted p = .error error) : error = .decryption := by
  obtain ⟨c, hc⟩ := Cipher.choose_of_printable h
  rw [openBytes, hc] at he
  exact Cipher.error_of_decrypt he

namespace Signer

variable {s : Signer} {filler : Filler} {payload : Bytes} {p : Option Passphrase} {o : Outcome Artifact}

inductive Ends (s : Signer) (filler : Filler) (payload : Bytes) (p : Option Passphrase) : Outcome Artifact → Prop where
  | noKeyFile {error : LicenseError} (hfile : s.holder.file = .error error) :
      Ends s filler payload p ⟨.error error, [.privateKey], []⟩
  | keyRejected {fault : KeyFault}
      (hkey : s.holder.Gives KeyFile.decodePrivateKey (.error (.inappropriateKey .privateKey fault))) :
      Ends s filler payload p ⟨.error (.signing (.inappropriateKey .privateKey fault)), [.privateKey, .passphrase],
        [.privateKeyRejected (.inappropriateKey .privateKey fault)]⟩
  | unprintable {k : RSA.PrivateKey} {q : Passphrase} (hkey : s.holder.Gives KeyFile.decodePrivateKey (.ok k))
      (hq : q ∈ p) (hprintable : ¬ q.Printable) :
      Ends s filler payload p ⟨.error (.crypto (.invalidKeySpec .unprintable)), [.privateKey, .passphrase], []⟩
  | cannotSign {k : RSA.PrivateKey} {encrypted : Bytes} {fault : RSA.SignFault}
      (hkey : s.holder.Gives KeyFile.decodePrivateKey (.ok k)) (hprintable : ∀ q ∈ p, q.Printable)
      (hsealed : sealBytes filler payload p = .ok encrypted)
      (hsigned : k.sign s.parameters.digest encrypted = .error fault) :
      Ends s filler payload p ⟨.error (.signing (.inappropriateKey .privateKey (.cannotSign s.parameters.digest fault))),
        [.privateKey, .passphrase], []⟩
  | signed {k : RSA.PrivateKey} {encrypted signature : Bytes}
      (hkey : s.holder.Gives KeyFile.decodePrivateKey (.ok k)) (hprintable : ∀ q ∈ p, q.Printable)
      (hsealed : sealBytes filler payload p = .ok encrypted)
      (hsigned : k.sign s.parameters.digest encrypted = .ok signature) :
      Ends s filler payload p ⟨.ok ⟨encrypted, signature⟩, [.privateKey, .passphrase],
        [.signed payload.length encrypted.length s.parameters.digest]⟩

theorem privateKey_of_noFile {error : LicenseError} (h : s.holder.file = .error error) :
    s.privateKey = ⟨.error error, [.privateKey], []⟩ := by
  rw [privateKey, Outcome.bind_of_error _ (by exact h)]
  rfl

theorem privateKey_of_rejected {error : SigningError} (h : s.holder.Gives KeyFile.decodePrivateKey (.error error)) :
    s.privateKey = ⟨.error (.ofSigning error), [.privateKey, .passphrase], [.privateKeyRejected error]⟩ := by
  obtain ⟨file, hfile, hk⟩ := h
  rw [privateKey, Outcome.bind_of_ok _ (by exact hfile), Outcome.bind_of_ok _ rfl]
  simp only [hk]
  rfl

theorem privateKey_of_gives {k : RSA.PrivateKey} (h : s.holder.Gives KeyFile.decodePrivateKey (.ok k)) :
    s.privateKey = ⟨.ok k, [.privateKey, .passphrase], []⟩ := by
  obtain ⟨file, hfile, hk⟩ := h
  rw [privateKey, Outcome.bind_of_ok _ (by exact hfile), Outcome.bind_of_ok _ rfl]
  simp only [hk]
  rfl

theorem eq_of_ends (h : s.Ends filler payload p o) : s.sign filler payload p = o := by
  cases h with
  | noKeyFile hfile =>
    rw [sign, privateKey_of_noFile hfile]
    rfl
  | keyRejected hkey =>
    rw [sign, privateKey_of_rejected hkey]
    rfl
  | unprintable hkey hq hprintable =>
    rw [sign, privateKey_of_gives hkey, Outcome.bind_of_ok _ rfl, sealBytes_of_not_printable hq hprintable]
    rfl
  | cannotSign hkey _ hsealed hsigned =>
    rw [sign, privateKey_of_gives hkey, Outcome.bind_of_ok _ rfl, hsealed, Outcome.bind_of_ok _ rfl, SealedLicense.sign,
      hsigned]
    rfl
  | signed hkey _ hsealed hsigned =>
    rw [sign, privateKey_of_gives hkey, Outcome.bind_of_ok _ rfl, hsealed, Outcome.bind_of_ok _ rfl, SealedLicense.sign,
      hsigned]
    rfl

theorem exists_ends (s : Signer) (filler : Filler) (payload : Bytes) (p : Option Passphrase) :
    ∃ o, s.Ends filler payload p o := by
  rcases s.holder.cases_gives KeyFile.decodePrivateKey with ⟨error, hfile⟩ | ⟨error, hkey⟩ | ⟨k, hkey⟩
  · exact ⟨_, .noKeyFile hfile⟩
  · obtain ⟨fault, rfl⟩ := hkey.privateKeyFault
    exact ⟨_, .keyRejected hkey⟩
  · by_cases hprintable : ∀ q ∈ p, q.Printable
    · obtain ⟨c, hc⟩ := Cipher.choose_of_printable hprintable
      have hsealed := sealBytes_of_choose hc filler payload
      cases hsigned : k.sign s.parameters.digest (Codebook.encrypt c.key.block (Cipher.padded filler payload)) with
      | error fault => exact ⟨_, .cannotSign hkey hprintable hsealed hsigned⟩
      | ok signature => exact ⟨_, .signed hkey hprintable hsealed hsigned⟩
    · push Not at hprintable
      obtain ⟨q, hq, hq'⟩ := hprintable
      exact ⟨_, .unprintable hkey hq hq'⟩

theorem sign_eq_iff : s.sign filler payload p = o ↔ s.Ends filler payload p o :=
  Outcome.eq_iff_of_exists (exists_ends s filler payload p) eq_of_ends

theorem error_of_sign_result {error : LicenseError} (h : (s.sign filler payload p).result = .error error) :
    s.holder.file = .error error ∨ (∃ fault, error = .signing (.inappropriateKey .privateKey fault)) ∨
      error = .crypto (.invalidKeySpec .unprintable) := by
  generalize ho : s.sign filler payload p = o at h
  cases sign_eq_iff.1 ho with
  | noKeyFile hfile =>
    cases h
    exact .inl hfile
  | keyRejected | cannotSign =>
    cases h
    exact .inr (.inl ⟨_, rfl⟩)
  | unprintable =>
    cases h
    exact .inr (.inr rfl)
  | signed => cases h

theorem unprintable_iff {k : RSA.PrivateKey} (hkey : s.holder.Gives KeyFile.decodePrivateKey (.ok k)) :
    (∃ fault, (s.sign filler payload p).result = .error (.crypto (.invalidKeySpec fault))) ↔
      ∃ q ∈ p, ¬ q.Printable := by
  constructor
  · rintro ⟨fault, h⟩
    by_contra hnone
    push Not at hnone
    obtain ⟨file, hfile, hk⟩ := hkey
    generalize ho : s.sign filler payload p = o at h
    cases sign_eq_iff.1 ho with
    | noKeyFile hno => cases hfile.symm.trans hno
    | keyRejected | cannotSign | signed => cases h
    | unprintable _ hq hprintable => exact hprintable (hnone _ hq)
  · rintro ⟨q, hq, hprintable⟩
    rw [eq_of_ends (.unprintable hkey hq hprintable)]
    exact ⟨_, rfl⟩

end Signer

namespace Verifier

variable {v : Verifier} {a : Artifact} {p : Option Passphrase}

inductive Ends (v : Verifier) (a : Artifact) : Outcome Unit → Prop where
  | noKeyFile {error : LicenseError} (hfile : v.holder.file = .error error) : Ends v a ⟨.error error, [.publicKey], []⟩
  | keyRejected {fault : KeyFault}
      (hkey : v.holder.Gives KeyFile.decodePublicKey (.error (.inappropriateKey .publicKey fault))) :
      Ends v a ⟨.error (.signing (.inappropriateKey .publicKey fault)), [.publicKey, .passphrase], []⟩
  | signatureRejected {k : RSA.PublicKey} (hkey : v.holder.Gives KeyFile.decodePublicKey (.ok k))
      (hsignature : k.verify v.parameters.digest a.payload a.signature = false) :
      Ends v a ⟨.error .invalidSignature, [.publicKey, .passphrase],
        [.signatureRejected a.payload.length v.parameters.digest]⟩
  | accepted {k : RSA.PublicKey} (hkey : v.holder.Gives KeyFile.decodePublicKey (.ok k))
      (hsignature : k.verify v.parameters.digest a.payload a.signature = true) :
      Ends v a ⟨.ok (), [.publicKey, .passphrase], []⟩

inductive OpenEnds (v : Verifier) (a : Artifact) (p : Option Passphrase) : Outcome Bytes → Prop where
  | refused {error : LicenseError} {requests : List Request} {events : List Event}
      (hverify : v.Ends a ⟨.error error, requests, events⟩) : OpenEnds v a p ⟨.error error, requests, events⟩
  | unprintable {q : Passphrase} (hverify : v.Ends a ⟨.ok (), [.publicKey, .passphrase], []⟩) (hq : q ∈ p)
      (hprintable : ¬ q.Printable) :
      OpenEnds v a p ⟨.error (.crypto (.invalidKeySpec .unprintable)), [.publicKey, .passphrase], []⟩
  | unreadable (hverify : v.Ends a ⟨.ok (), [.publicKey, .passphrase], []⟩) (hprintable : ∀ q ∈ p, q.Printable)
      (hopened : openBytes a.payload p = .error .decryption) :
      OpenEnds v a p ⟨.error (.crypto .decryption), [.publicKey, .passphrase], []⟩
  | opened {payload : Bytes} (hverify : v.Ends a ⟨.ok (), [.publicKey, .passphrase], []⟩)
      (hprintable : ∀ q ∈ p, q.Printable) (hopened : openBytes a.payload p = .ok payload) :
      OpenEnds v a p ⟨.ok payload, [.publicKey, .passphrase], [.opened payload.length]⟩

theorem publicKey_of_noFile {error : LicenseError} (h : v.holder.file = .error error) :
    v.publicKey = ⟨.error error, [.publicKey], []⟩ := by
  rw [publicKey, Outcome.bind_of_error _ (by exact h)]
  rfl

theorem publicKey_of_gives {r : Except SigningError RSA.PublicKey} (h : v.holder.Gives KeyFile.decodePublicKey r) :
    v.publicKey = ⟨r.mapError .ofSigning, [.publicKey, .passphrase], []⟩ := by
  obtain ⟨file, hfile, rfl⟩ := h
  rw [publicKey, Outcome.bind_of_ok _ (by exact hfile), Outcome.bind_of_ok _ rfl]
  rfl

theorem eq_of_ends {o : Outcome Unit} (h : v.Ends a o) : v.verify a = o := by
  cases h with
  | noKeyFile hfile =>
    rw [verify, publicKey_of_noFile hfile]
    rfl
  | keyRejected hkey =>
    rw [verify, publicKey_of_gives hkey]
    rfl
  | signatureRejected hkey hsignature =>
    rw [verify, publicKey_of_gives hkey, Outcome.bind_of_ok _ rfl]
    simp only [SealedLicense.verify, hsignature]
    rfl
  | accepted hkey hsignature =>
    rw [verify, publicKey_of_gives hkey, Outcome.bind_of_ok _ rfl]
    simp only [SealedLicense.verify, hsignature]
    rfl

theorem exists_ends (v : Verifier) (a : Artifact) : ∃ o, v.Ends a o := by
  rcases v.holder.cases_gives KeyFile.decodePublicKey with ⟨error, hfile⟩ | ⟨error, hkey⟩ | ⟨k, hkey⟩
  · exact ⟨_, .noKeyFile hfile⟩
  · obtain ⟨fault, rfl⟩ := hkey.publicKeyFault
    exact ⟨_, .keyRejected hkey⟩
  · cases hsignature : k.verify v.parameters.digest a.payload a.signature with
    | false => exact ⟨_, .signatureRejected hkey hsignature⟩
    | true => exact ⟨_, .accepted hkey hsignature⟩

theorem verify_eq_iff {o : Outcome Unit} : v.verify a = o ↔ v.Ends a o :=
  Outcome.eq_iff_of_exists (exists_ends v a) eq_of_ends

theorem error_of_verify_result {error : LicenseError} (h : (v.verify a).result = .error error) :
    v.holder.file = .error error ∨ (∃ fault, error = .signing (.inappropriateKey .publicKey fault)) ∨
      error = .invalidSignature := by
  generalize ho : v.verify a = o at h
  cases verify_eq_iff.1 ho with
  | noKeyFile hfile =>
    cases h
    exact .inl hfile
  | keyRejected =>
    cases h
    exact .inr (.inl ⟨_, rfl⟩)
  | signatureRejected =>
    cases h
    exact .inr (.inr rfl)
  | accepted => cases h

theorem eq_of_openEnds {o : Outcome Bytes} (h : v.OpenEnds a p o) : v.openArtifact a p = o := by
  cases h with
  | refused hverify =>
    rw [openArtifact, eq_of_ends hverify]
    rfl
  | unprintable hverify hq hprintable =>
    rw [openArtifact, eq_of_ends hverify, Outcome.bind_of_ok _ rfl, openBytes_of_not_printable hq hprintable]
    rfl
  | unreadable hverify _ hopened =>
    rw [openArtifact, eq_of_ends hverify, Outcome.bind_of_ok _ rfl, hopened]
    rfl
  | opened hverify _ hopened =>
    rw [openArtifact, eq_of_ends hverify, Outcome.bind_of_ok _ rfl, hopened]
    rfl

theorem exists_openEnds (v : Verifier) (a : Artifact) (p : Option Passphrase) : ∃ o, v.OpenEnds a p o := by
  obtain ⟨o, ho⟩ := exists_ends v a
  cases ho with
  | noKeyFile hfile => exact ⟨_, .refused (.noKeyFile hfile)⟩
  | keyRejected hkey => exact ⟨_, .refused (.keyRejected hkey)⟩
  | signatureRejected hkey hsignature => exact ⟨_, .refused (.signatureRejected hkey hsignature)⟩
  | accepted hkey hsignature =>
    have hverify := Ends.accepted hkey hsignature
    by_cases hprintable : ∀ q ∈ p, q.Printable
    · cases hopened : openBytes a.payload p with
      | error error =>
        cases error_of_openBytes hprintable hopened
        exact ⟨_, .unreadable hverify hprintable hopened⟩
      | ok payload => exact ⟨_, .opened hverify hprintable hopened⟩
    · push Not at hprintable
      obtain ⟨q, hq, hq'⟩ := hprintable
      exact ⟨_, .unprintable hverify hq hq'⟩

theorem openArtifact_eq_iff {o : Outcome Bytes} : v.openArtifact a p = o ↔ v.OpenEnds a p o :=
  Outcome.eq_iff_of_exists (exists_openEnds v a p) eq_of_openEnds

theorem openArtifact_of_refused {error : LicenseError} (h : (v.verify a).result = .error error)
    (p : Option Passphrase) : v.openArtifact a p = ⟨.error error, (v.verify a).requests, (v.verify a).events⟩ := by
  refine eq_of_openEnds (.refused (verify_eq_iff.1 ?_))
  rw [← h]

theorem error_of_openArtifact_result (hv : (v.verify a).result = .ok ()) {error : LicenseError}
    (h : (v.openArtifact a p).result = .error error) :
    error = .crypto (.invalidKeySpec .unprintable) ∨ error = .crypto .decryption := by
  generalize ho : v.openArtifact a p = o at h
  cases openArtifact_eq_iff.1 ho with
  | refused hverify =>
    rw [eq_of_ends hverify] at hv
    cases hv
  | unprintable =>
    cases h
    exact .inl rfl
  | unreadable =>
    cases h
    exact .inr rfl
  | opened => cases h

end Verifier

theorem workflow_stages :
    (∀ (s : Signer) (filler : Filler) (payload : Bytes) (p : Option Passphrase),
      (∀ o, s.sign filler payload p = o ↔ s.Ends filler payload p o) ∧
      (∀ k, s.holder.Gives KeyFile.decodePrivateKey (.ok k) →
        ((∃ fault, (s.sign filler payload p).result = .error (.crypto (.invalidKeySpec fault))) ↔
          ∃ q ∈ p, ¬ q.Printable)) ∧
      ∀ error, (s.sign filler payload p).result = .error error → s.holder.file = .error error ∨
        (∃ fault, error = .signing (.inappropriateKey .privateKey fault)) ∨
          error = .crypto (.invalidKeySpec .unprintable)) ∧
    ∀ (v : Verifier) (a : Artifact),
      (∀ o, v.verify a = o ↔ v.Ends a o) ∧
      (∀ error, (v.verify a).result = .error error → v.holder.file = .error error ∨
        (∃ fault, error = .signing (.inappropriateKey .publicKey fault)) ∨ error = .invalidSignature) ∧
      ∀ p, (∀ o, v.openArtifact a p = o ↔ v.OpenEnds a p o) ∧
        (∀ error, (v.verify a).result = .error error →
          v.openArtifact a p = ⟨.error error, (v.verify a).requests, (v.verify a).events⟩) ∧
        ((v.verify a).result = .ok () → ∀ error, (v.openArtifact a p).result = .error error →
          error = .crypto (.invalidKeySpec .unprintable) ∨ error = .crypto .decryption) := by
  refine ⟨fun s filler payload p => ⟨fun _ => Signer.sign_eq_iff, ?_, ?_⟩, fun v a => ⟨fun _ => Verifier.verify_eq_iff, ?_, ?_⟩⟩
  · exact fun k => Signer.unprintable_iff
  · exact fun error => Signer.error_of_sign_result
  · exact fun error => Verifier.error_of_verify_result
  · intro p
    exact ⟨fun _ => Verifier.openArtifact_eq_iff, fun _ h => Verifier.openArtifact_of_refused h p,
      fun hv _ => Verifier.error_of_openArtifact_result hv⟩

theorem workflow_stages_mersenneKey :
    ∃ (privateFile publicFile : Bytes) (a : Artifact),
      (Signer.sign ⟨⟨.ok privateFile, .ofString "pw"⟩, ⟨.sha256⟩⟩ (fun _ => 7) [1, 2, 3] none).result = .ok a ∧
      (∃ fault, (Signer.sign ⟨⟨.ok privateFile, .ofString "pw"⟩, ⟨.sha256⟩⟩ (fun _ => 7) [1, 2, 3]
        (some (.ofString "naïve"))).result = .error (.crypto (.invalidKeySpec fault))) ∧
      Verifier.openArtifact ⟨⟨.error (.keyNotFound (.unreadable "key.pub")), .ofString "~ key"⟩, ⟨.sha256⟩⟩ a
        (some (.ofString "naïve")) = ⟨.error (.keyNotFound (.unreadable "key.pub")), [.publicKey], []⟩ ∧
      Verifier.openArtifact ⟨⟨.ok publicFile, .ofString "~ key"⟩, ⟨.sha256⟩⟩ a (some (.ofString "naïve")) =
        ⟨.error (.crypto (.invalidKeySpec .unprintable)), [.publicKey, .passphrase], []⟩ := by
  obtain ⟨privateFile, publicFile, hk, hp⟩ := KeyFile.exists_mersenneKey_files (p := .ofString "pw")
    (q := .ofString "~ key") (by decide) (by decide)
  obtain ⟨a, ha⟩ := Signer.exists_artifact (s := ⟨⟨.ok privateFile, .ofString "pw"⟩, ⟨.sha256⟩⟩)
    (Signer.privateKey_result rfl hk) RSA.mersenneKey_p_prime RSA.mersenneKey_q_prime RSA.mersenneKey_factors_ne
    (RSA.mersenneKey_fits _) (fun _ => 7) [1, 2, 3] (p := none) (by simp)
  have hq : ¬ (Passphrase.ofString "naïve").Printable := by decide
  obtain ⟨hsigner, hverifier⟩ := workflow_stages
  obtain ⟨-, hunprintable, -⟩ := hsigner ⟨⟨.ok privateFile, .ofString "pw"⟩, ⟨.sha256⟩⟩ (fun _ => 7) [1, 2, 3]
    (some (.ofString "naïve"))
  obtain ⟨-, -, hmissing⟩ :=
    hverifier ⟨⟨.error (.keyNotFound (.unreadable "key.pub")), .ofString "~ key"⟩, ⟨.sha256⟩⟩ a
  obtain ⟨-, hrefused, -⟩ := hmissing (some (.ofString "naïve"))
  obtain ⟨hverify, -, hopens⟩ := hverifier ⟨⟨.ok publicFile, .ofString "~ key"⟩, ⟨.sha256⟩⟩ a
  obtain ⟨hopen, -⟩ := hopens (some (.ofString "naïve"))
  refine ⟨privateFile, publicFile, a, ha, ?_, hrefused _ rfl, ?_⟩
  · exact (hunprintable _ ⟨privateFile, rfl, hk⟩).2 ⟨_, rfl, hq⟩
  · refine (hopen _).2 (.unprintable (.accepted ⟨publicFile, rfl, hp⟩ ?_) rfl hq)
    have hsigned := ((Signer.sign_result_iff (Signer.privateKey_result rfl hk) (fun _ => 7) [1, 2, 3] none a).1 ha).2
    exact verify_eq_ok_iff.1 (verify_of_sign hsigned)

end SealedLicense
