import WifiTrust.Certificate.ObjectId

namespace WifiTrust.ObjectId

/-- The groups of known identifiers with the last byte and the name of each. -/
def registry : List (Bytes × List (UInt8 × String)) :=
  [
    ([0x55], [(4, "x509")]),
    ([0x55, 0x04],
      [(0, "objectClass"), (1, "aliasedEntryName"), (2, "knowledgeInformation"), (3, "CN"),
        (4, "surname"), (5, "serialNumber"), (6, "C"), (7, "L"), (8, "ST"), (9, "streetAddress"),
        (10, "O"), (11, "OU"), (12, "title"), (13, "description"), (14, "searchGuide"),
        (15, "businessCategory"), (16, "postalAddress"), (17, "postalCode"), (41, "name"),
        (42, "givenName"), (43, "initials"), (44, "generationQualifier"), (45, "uniqueIdentifier"),
        (46, "dnQualifier")]),
    ([0x55, 0x1D],
      [(1, "oldAuthorityKeyIdentifier"), (2, "oldKeyAttributes"), (3, "oldCertificatePolicies"),
        (4, "oldKeyUsage"), (5, "oldPolicyMapping"), (6, "oldSubtreesConstraint"),
        (7, "oldSubjectAltNAme"), (8, "oldIssuerAltNAme"), (14, "subjectKeyIdentifier"),
        (15, "keyUsage"), (16, "privateKeyUsagePeriod"), (17, "subjectAltName"),
        (18, "issuerAltName"), (19, "basicConstraints"), (20, "crlNumber"), (21, "reasonCode"),
        (23, "holdInstructionCode"), (24, "invalidityDate"), (27, "deltaCRLIndicator"),
        (28, "issuerDistributionPoint"), (29, "issuer"), (30, "nameConstraints"),
        (31, "crlDistributionPoints"), (32, "certificatePolicies"), (33, "policyMappings"),
        (35, "authorityKeyIdentifier"), (36, "policyConstraints"), (37, "extendedKeyUsage"),
        (46, "freshestCRL"), (54, "inhibitantAnyPolicy")]),
    ([0x60, 0x86, 0x48, 0x01, 0x86, 0xF8, 0x42, 0x01],
      [(1, "nsCertType"), (2, "nsBaseURL"), (3, "nsRevocationURL"), (4, "nsCARevocationURL"),
        (5, "nsCACRLURL"), (6, "nsCACertURL"), (7, "nsRenewalURL"), (8, "nsCAPolicyURL"),
        (9, "nsHomepageURL"), (10, "nsEntityLogo"), (11, "nsUserPicture"), (12, "nsSSLServerName"),
        (13, "nsComment")]),
    ([0x09, 0x92, 0x26, 0x89, 0x93, 0xF2, 0x2C, 0x64, 0x01], [(1, "uid"), (25, "DC")]),
    ([0x2B, 0x06, 0x01, 0x04, 0x01, 0x82, 0x37, 0x3C, 0x02, 0x01],
      [(1, "msJurisdictionLocality"), (2, "msJurisdictionStateOrProvince"),
        (3, "msJurisdictionCountry")]),
    ([0x2B, 0x06, 0x01, 0x05, 0x05, 0x07, 0x01], [(1, "authorityInfoAccess")]),
    ([0x2B, 0x06, 0x01, 0x04, 0x01, 0xD6, 0x79, 0x02, 0x04], [(2, "ctSCTList")]),
    ([0x2B, 0x06, 0x01, 0x05, 0x05, 0x07, 0x30],
      [(1, "id-ad-ocsp"), (2, "id-ad-caIssuers"), (3, "id-ad-timestamping"), (4, "id-ad-dvcs"),
        (5, "id-ad-caRepository"), (6, "id-ad-http-certs"), (7, "id-ad-http-crls"),
        (10, "id-ad-rpki-manifest"), (11, "id-ad-signed-object"), (12, "id-ad-cmc"),
        (13, "id-ad-rpki-notify"), (14, "id-ad-stirTNList")]),
    ([0x2A, 0x86, 0x48, 0x86, 0xF7, 0x0D, 0x01, 0x09],
      [(1, "Email"), (2, "unstructuredName"), (3, "contentType"), (4, "id-messageDigest"),
        (5, "signing-time"), (7, "challengePassword"), (14, "extensionRequest"),
        (15, "smimeCapabilities"), (20, "friendlyName")]),
    ([0x2A, 0x86, 0x48, 0x86, 0xF7, 0x0D, 0x01, 0x07],
      [(1, "pkcs7-data"), (2, "pkcs7-signedData"), (3, "pkcs7-envelopedData"),
        (4, "pkcs7-signedAndEnvelopedData"), (5, "pkcs7-digestedData"),
        (6, "pkcs7-encryptedData")]),
    ([0x2A, 0x86, 0x48, 0x86, 0xF7, 0x0D, 0x01], [(12, "pkcs-12")]),
    ([0x2A, 0x86, 0x48, 0x86, 0xF7, 0x0D, 0x01, 0x0C], [(1, "pkcs-12PbeIds")]),
    ([0x2A, 0x86, 0x48, 0x86, 0xF7, 0x0D, 0x01, 0x0C, 0x01],
      [(1, "pbeWithSHAAnd128BitRC4"), (2, "pbeWithSHAAnd40BitRC4"),
        (3, "pbeWithSHAAnd3-KeyTripleDES-CBC"), (4, "pbeWithSHAAnd2-KeyTripleDES-CBC"),
        (5, "pbeWithSHAAnd128BitRC2-CBC"), (6, "pbeWithSHAAnd40BitRC2-CBC")]),
    ([0x2A, 0x86, 0x48, 0x86, 0xF7, 0x0D, 0x01, 0x01],
      [(1, "rsaEncryption"), (2, "md2WithRSAEncryption"), (3, "md4WithRSAEncryption"),
        (4, "md5WithRSAEncryption"), (5, "sha1WithRSAEncryption"), (8, "id-mgf1"),
        (10, "rsassa-pss"), (11, "sha256WithRSAEncryption"), (12, "sha384WithRSAEncryption"),
        (13, "sha512WithRSAEncryption"), (14, "sha224WithRSAEncryption")]),
    ([0x2B, 0x0E, 0x03, 0x02],
      [(25, "md5WithRSASignature"), (26, "id-SHA1"), (29, "sha1WithRSAEncryption")]),
    ([0x2B, 0x24, 0x03, 0x03, 0x01], [(2, "rsaSignatureWithripemd160")]),
    ([0x2A, 0x86, 0x48, 0xCE, 0x38, 0x04], [(1, "id-dsa"), (3, "dsa-with-sha1")]),
    ([0x2A, 0x86, 0x48, 0xCE, 0x3D, 0x02], [(1, "id-ecPublicKey")]),
    ([0x2A, 0x86, 0x48, 0xCE, 0x3D, 0x03, 0x01], [(7, "prime256v1")]),
    ([0x2A, 0x86, 0x48, 0xCE, 0x3D, 0x04, 0x03],
      [(1, "ecdsa-with-SHA224"), (2, "ecdsa-with-SHA256"), (3, "ecdsa-with-SHA384"),
        (4, "ecdsa-with-SHA512")]),
    ([0x2B, 0x81, 0x04, 0x00], [(34, "secp384r1"), (35, "secp521r1")]),
    ([0x2B, 0x65], [(112, "ed25519"), (113, "ed448")]),
    ([0x2B, 0x81, 0x05, 0x10, 0x86, 0x48, 0x3F, 0x00], [(2, "dhSinglePass-stdDH-sha1kdf-scheme")]),
    ([0x2A, 0x85, 0x03, 0x02, 0x02],
      [(3, "id-GostR3411-94-with-GostR3410-2001"), (19, "gostR3410-2001")]),
    ([0x2A, 0x85, 0x03, 0x07, 0x01, 0x01, 0x01],
      [(1, "gost3410-2012-256"), (2, "gost3410-2012-512")]),
    ([0x2A, 0x85, 0x03, 0x07, 0x01, 0x01, 0x03],
      [(2, "id-tc26-signwithdigest-gost3410-12-256"),
        (3, "id-tc26-signwithdigest-gost3410-12-512")]),
    ([0x60, 0x86, 0x48, 0x01, 0x65, 0x03, 0x04, 0x01], [(42, "aes-256-cbc")]),
    ([0x60, 0x86, 0x48, 0x01, 0x65, 0x03, 0x04, 0x02],
      [(1, "sha256"), (2, "sha384"), (3, "sha512")])]

def name? (id : ObjectId) : Option String := do
  let last ← id.bytes.getLast?
  let (_, names) ← registry.find? (·.1 = id.bytes.dropLast)
  let (_, name) ← names.find? (·.1 = last)
  return name

end WifiTrust.ObjectId
