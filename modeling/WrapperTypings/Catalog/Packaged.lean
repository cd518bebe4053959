import WrapperTypings.Catalog.Declarations

set_option autoImplicit false

/-! The tables that come with the library: the declarations the catalog does not carry, and the
names that only the sumo build exports. Their order is the order of the generated text. -/

namespace WrapperTypings

namespace Symbol

def utility (name : String) (inputs : List (String × String)) (returns : String) : Symbol where
  name := name
  inputs := inputs.map (fun input => ⟨input.1, input.2, false, .null⟩)
  outputs := []
  returnExpression := some returns
  shape := ReturnShape.infer (some returns)
  dependencies := []
  assertions := []
  noOutputFormat := false
  target := .null
  kind := .string "function"

end Symbol

namespace Declarations

def texts (members : List String) : List Json :=
  members.map Json.string

def packagedAliases : List (String × List Json) := [
  ("Uint8ArrayOutputFormat", texts ["'uint8array'"]),
  ("StringOutputFormat", texts ["'text'", "'hex'", "'base64'"]),
  ("KeyType", texts ["'curve25519'", "'ed25519'", "'x25519'"])]

def packagedEnumerations : List (String × List Json) := [
  ("base64_variants",
    texts ["ORIGINAL", "ORIGINAL_NO_PADDING", "URLSAFE", "URLSAFE_NO_PADDING"])]

def packagedRecords : List (String × List RecordField) := [
  ("CryptoBox", [⟨"ciphertext", "Uint8Array"⟩, ⟨"mac", "Uint8Array"⟩]),
  ("StringCryptoBox", [⟨"ciphertext", "string"⟩, ⟨"mac", "string"⟩]),
  ("CryptoKX", [⟨"sharedRx", "Uint8Array"⟩, ⟨"sharedTx", "Uint8Array"⟩]),
  ("StringCryptoKX", [⟨"sharedRx", "string"⟩, ⟨"sharedTx", "string"⟩]),
  ("KeyPair", [⟨"keyType", "KeyType"⟩, ⟨"privateKey", "Uint8Array"⟩, ⟨"publicKey", "Uint8Array"⟩]),
  ("StringKeyPair", [⟨"keyType", "KeyType"⟩, ⟨"privateKey", "string"⟩, ⟨"publicKey", "string"⟩]),
  ("SecretBox", [⟨"cipher", "Uint8Array"⟩, ⟨"mac", "Uint8Array"⟩]),
  ("StringSecretBox", [⟨"cipher", "string"⟩, ⟨"mac", "string"⟩]),
  ("MessageTag", [⟨"message", "Uint8Array"⟩, ⟨"tag", "number"⟩]),
  ("StringMessageTag", [⟨"message", "string"⟩, ⟨"tag", "number"⟩]),
  ("generichash_state_address", [⟨"name", "string"⟩]),
  ("onetimeauth_state_address", [⟨"name", "string"⟩]),
  ("secretstream_xchacha20poly1305_state_address", [⟨"name", "string"⟩]),
  ("state_address", [⟨"name", "string"⟩])]

def packagedSymbols : List Symbol := [
  .utility "add" [("a", "Uint8Array"), ("b", "Uint8Array")] "void",
  .utility "compare" [("b1", "Uint8Array"), ("b2", "Uint8Array")] "number",
  .utility "from_base64" [("input", "string"), ("variant", "base64_variants")] "Uint8Array",
  .utility "from_hex" [("input", "string")] "Uint8Array",
  .utility "from_string" [("str", "string")] "Uint8Array",
  .utility "increment" [("bytes", "Uint8Array")] "void",
  .utility "is_zero" [("bytes", "Uint8Array")] "boolean",
  .utility "memcmp" [("b1", "Uint8Array"), ("b2", "Uint8Array")] "boolean",
  .utility "memzero" [("bytes", "Uint8Array")] "void",
  .utility "output_formats" [] "Array<Uint8ArrayOutputFormat | StringOutputFormat>",
  .utility "pad" [("buf", "Uint8Array"), ("blocksize", "number")] "Uint8Array",
  .utility "unpad" [("buf", "Uint8Array"), ("blocksize", "number")] "Uint8Array",
  .utility "symbols" [] "string[]",
  .utility "to_base64" [("input", "string | Uint8Array"), ("variant", "base64_variants")] "string",
  .utility "to_hex" [("input", "string | Uint8Array")] "string",
  .utility "to_string" [("bytes", "Uint8Array")] "string"]

def packaged : Declarations :=
  ⟨packagedAliases, packagedEnumerations, packagedRecords, packagedSymbols⟩

end Declarations

/-- Lower-cased names that only the sumo build exports. -/
def sumoOnlyNames : List String := [
  "crypto_auth_hmacsha256",
  "crypto_auth_hmacsha256_bytes",
  "crypto_auth_hmacsha256_keybytes",
  "crypto_auth_hmacsha256_keygen",
  "crypto_auth_hmacsha256_verify",
  "crypto_auth_hmacsha512",
  "crypto_auth_hmacsha512_bytes",
  "crypto_auth_hmacsha512_keybytes",
  "crypto_auth_hmacsha512_keygen",
  "crypto_auth_hmacsha512_verify",
  "crypto_box_curve25519xchacha20poly1305_beforenmbytes",
  "crypto_box_curve25519xchacha20poly1305_keypair",
  "crypto_box_curve25519xchacha20poly1305_macbytes",
  "crypto_box_curve25519xchacha20poly1305_noncebytes",
  "crypto_box_curve25519xchacha20poly1305_publickeybytes",
  "crypto_box_curve25519xchacha20poly1305_sealbytes",
  "crypto_box_curve25519xchacha20poly1305_secretkeybytes",
  "crypto_box_curve25519xchacha20poly1305_seedbytes",
  "crypto_core_hchacha20",
  "crypto_core_hchacha20_constbytes",
  "crypto_core_hchacha20_inputbytes",
  "crypto_core_hchacha20_keybytes",
  "crypto_core_hchacha20_outputbytes",
  "crypto_core_hsalsa20",
  "crypto_core_hsalsa20_constbytes",
  "crypto_core_hsalsa20_inputbytes",
  "crypto_core_hsalsa20_keybytes",
  "crypto_core_hsalsa20_outputbytes",
  "crypto_core_ristretto255_add",
  "crypto_core_ristretto255_bytes",
  "crypto_core_ristretto255_from_hash",
  "crypto_core_ristretto255_hashbytes",
  "crypto_core_ristretto255_is_valid_point",
  "crypto_core_ristretto255_nonreducedscalarbytes",
  "crypto_core_ristretto255_random",
  "crypto_core_ristretto255_scalar_add",
  "crypto_core_ristretto255_scalar_complement",
  "crypto_core_ristretto255_scalar_invert",
  "crypto_core_ristretto255_scalar_mul",
  "crypto_core_ristretto255_scalar_negate",
  "crypto_core_ristretto255_scalar_random",
  "crypto_core_ristretto255_scalar_reduce",
  "crypto_core_ristretto255_scalar_sub",
  "crypto_core_ristretto255_scalarbytes",
  "crypto_core_ristretto255_sub",
  "crypto_generichash_blake2b_salt_personal",
  "crypto_hash_sha256",
  "crypto_hash_sha256_bytes",
  "crypto_hash_sha256_final",
  "crypto_hash_sha256_init",
  "crypto_hash_sha256_update",
  "crypto_hash_sha512",
  "crypto_hash_sha512_bytes",
  "crypto_hash_sha512_final",
  "crypto_hash_sha512_init",
  "crypto_hash_sha512_update",
  "crypto_onetimeauth",
  "crypto_onetimeauth_bytes",
  "crypto_onetimeauth_final",
  "crypto_onetimeauth_init",
  "crypto_onetimeauth_keybytes",
  "crypto_onetimeauth_keygen",
  "crypto_onetimeauth_update",
  "crypto_onetimeauth_verify",
  "crypto_pwhash_scryptsalsa208sha256",
  "crypto_pwhash_scryptsalsa208sha256_bytes_max",
  "crypto_pwhash_scryptsalsa208sha256_bytes_min",
  "crypto_pwhash_scryptsalsa208sha256_ll",
  "crypto_pwhash_scryptsalsa208sha256_memlimit_interactive",
  "crypto_pwhash_scryptsalsa208sha256_memlimit_max",
  "crypto_pwhash_scryptsalsa208sha256_memlimit_min",
  "crypto_pwhash_scryptsalsa208sha256_memlimit_sensitive",
  "crypto_pwhash_scryptsalsa208sha256_opslimit_interactive",
  "crypto_pwhash_scryptsalsa208sha256_opslimit_max",
  "crypto_pwhash_scryptsalsa208sha256_opslimit_min",
  "crypto_pwhash_scryptsalsa208sha256_opslimit_sensitive",
  "crypto_pwhash_scryptsalsa208sha256_saltbytes",
  "crypto_pwhash_scryptsalsa208sha256_str",
  "crypto_pwhash_scryptsalsa208sha256_str_verify",
  "crypto_pwhash_scryptsalsa208sha256_strbytes",
  "crypto_pwhash_scryptsalsa208sha256_strprefix",
  "crypto_scalarmult_ed25519",
  "crypto_scalarmult_ed25519_base",
  "crypto_scalarmult_ed25519_base_noclamp",
  "crypto_scalarmult_ed25519_bytes",
  "crypto_scalarmult_ed25519_noclamp",
  "crypto_scalarmult_ed25519_scalarbytes",
  "crypto_scalarmult_ristretto255",
  "crypto_scalarmult_ristretto255_base",
  "crypto_scalarmult_ristretto255_bytes",
  "crypto_scalarmult_ristretto255_scalarbytes",
  "crypto_secretbox_xchacha20poly1305_keybytes",
  "crypto_secretbox_xchacha20poly1305_macbytes",
  "crypto_secretbox_xchacha20poly1305_messagebytes_max",
  "crypto_secretbox_xchacha20poly1305_noncebytes",
  "crypto_secretbox_xsalsa20poly1305_keybytes",
  "crypto_secretbox_xsalsa20poly1305_macbytes",
  "crypto_secretbox_xsalsa20poly1305_messagebytes_max",
  "crypto_secretbox_xsalsa20poly1305_noncebytes",
  "crypto_shorthash_siphashx24",
  "crypto_shorthash_siphashx24_bytes",
  "crypto_shorthash_siphashx24_keybytes",
  "crypto_sign_ed25519_sk_to_pk",
  "crypto_sign_ed25519_sk_to_seed",
  "crypto_stream_chacha20",
  "crypto_stream_chacha20_ietf_xor",
  "crypto_stream_chacha20_ietf_xor_ic",
  "crypto_stream_chacha20_keygen",
  "crypto_stream_chacha20_xor",
  "crypto_stream_chacha20_xor_ic",
  "crypto_stream_keygen",
  "crypto_stream_xchacha20_keygen",
  "crypto_stream_xchacha20_xor",
  "crypto_stream_xchacha20_xor_ic"]

end WrapperTypings
