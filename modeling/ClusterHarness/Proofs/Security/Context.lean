import ClusterHarness.Proofs.Results
import ClusterHarness.Proofs.Security.Authorities
import ClusterHarness.Proofs.Security.Expiry

/-!
Which errors of trust material are configuration errors. The certificates are read and checked before the TLS
library reads the same files again; what the library makes of the authorities, a version that is not known and a
subject without a text are told as they are.
-/

namespace ClusterHarness

def TrustError.IsOfConfiguration : TrustError → Prop
  | .configuration _ => True
  | .certificate _ => False

def TlsError.IsOfConfiguration : TlsError → Prop
  | .trust e => e.IsOfConfiguration
  | .authorities _ => False
  | .keyPath _ => False

/-! ### Files -/

namespace TrustMaterial

open Time

variable {w : World} {now : Instant} {files : FileTree} {path : Path} {c : Certificate} {cs : List Certificate}

/-- A certificate of an unknown version, after others that are read. -/
def HoldsUnknownVersion (files : FileTree) (path : Path) : Prop :=
  ∃ text, content files path = .ok text ∧
    UpTo (fun t => ∃ c, Certificate.ofPem t = .ok c) (fun t => ∃ n, Certificate.ofPem t = .error (.version n))
      (Pem.splitChain text.unifyLineEnds)

/-- A certificate that raises no error. -/
def Passes (now : Instant) (c : Certificate) : Prop :=
  ∃ micros, c.expiry = .ok micros ∧ now.micros ≤ micros ∧
    (micros - now.micros < dayMicros → ∃ t, c.subjectText = .ok t)

/-- A certificate that the check cannot tell about: its expiry is in no year, or it is to be told with its subject
and that has no text. -/
inductive Stumbles (now : Instant) (c : Certificate) : Prop
  | expiry {e : CertificateError} (h : c.expiry = .error e)
  | subject {micros : ℤ} {e : CertificateError} (hexpiry : c.expiry = .ok micros)
    (hday : micros - now.micros < dayMicros) (h : c.subjectText = .error e)

theorem checkCertificate_of_error {e : CertificateError} (h : c.expiry = .error e) :
    checkCertificate now path c = .error (.certificate e) := by
  simp only [checkCertificate, Certificate.remainingHours, h]
  rfl

theorem checkCertificate_of_subject {micros : ℤ} {e : CertificateError} (hexpiry : c.expiry = .ok micros)
    (hday : micros - now.micros < dayMicros) (h : c.subjectText = .error e) :
    checkCertificate now path c = .error (.certificate e) := by
  obtain ⟨n, hn, hcounts⟩ := Certificate.remainingHours_counts hexpiry now
  have hsoon : n < warningHours := hcounts.soon.mpr hday
  simp only [checkCertificate, hn, mapError_ok, bind, Except.bind, if_pos hsoon, h, mapError_error]

theorem Stumbles.escapes (h : Stumbles now c) :
    Escapes TrustError.IsOfConfiguration (checkCertificate now path c) := by
  cases h with
  | expiry h => exact checkCertificate_of_error h ▸ escapes_error.mpr id
  | subject hexpiry hday h => exact checkCertificate_of_subject hexpiry hday h ▸ escapes_error.mpr id

/-- A file of certificates that raise no error. -/
def FilePasses (w : World) (path : Path) : Prop :=
  ∃ cs, loadCertificates w.files path = .ok cs ∧ ∀ c ∈ cs, Passes w.now c

/-- A file from which something else than a configuration error escapes. -/
inductive FileSlips (w : World) (path : Path) : Prop
  | version (h : HoldsUnknownVersion w.files path)
  | certificate {cs : List Certificate} (hload : loadCertificates w.files path = .ok cs)
    (h : UpTo (Passes w.now) (Stumbles w.now) cs)

theorem FilePasses.read (h : FilePasses w path) : ∃ bs, w.files.readBytes path = .ok bs := by
  obtain ⟨cs, hload, -⟩ := h
  obtain ⟨text, htext, -⟩ := bind_eq_ok.mp hload
  obtain ⟨bs, hbs, -⟩ := bind_eq_ok.mp htext
  exact ⟨bs, mapError_eq_ok.mp hbs⟩

end TrustMaterial

/-! ### Contexts -/

namespace TlsContext

open TrustMaterial

variable {w : World} {k : Keystore}

/-- Trust material from which something else than a configuration error escapes. -/
inductive Slips (w : World) (k : Keystore) : Prop
  | authority (h : FileSlips w k.caCert)
  | client (hca : FilePasses w k.caCert) (h : FileSlips w k.clientCert)
  | refused {bs : Bytes} {fault : AuthorityFault} (hca : FilePasses w k.caCert) (hclient : FilePasses w k.clientCert)
    (hread : w.files.readBytes k.caCert = .ok bs) (h : loadAuthorities bs = .error fault)
  | key {bs : Bytes} {fault : PathFault} (hca : FilePasses w k.caCert) (hclient : FilePasses w k.clientCert)
    (hread : w.files.readBytes k.caCert = .ok bs) (hloads : loadAuthorities bs = .ok ())
    (h : FileTree.locate k.clientKey = .error fault)

/-- The check reads a certificate without its end as if it had one; the TLS library does not. -/
theorem unended_authority_slips {bs : Bytes} {before body : Text} (hca : FilePasses w k.caCert)
    (hclient : FilePasses w k.clientCert) (hread : w.files.readBytes k.caCert = .ok bs)
    (hbytes : PemFile.ofBytes bs = before ++ (PemFile.beginLine ++ body)) (hlines : PemFile.IsLines before)
    (hzero : ∀ c ∈ before, c.val ≠ 0) (hbody : ¬PemFile.endMark <:+: body) : Slips w k :=
  .refused hca hclient hread (loadAuthorities_broken (PemFile.blocks_unended hbytes hlines hzero hbody))

/-! ### Files that are not blamed -/

end TlsContext

end ClusterHarness
