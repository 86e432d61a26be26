/-! The policy that comes with the program, in its two forms: a module of the policy language, and a
role document. Both grant the same. -/
namespace Clearance.Policy.Shipped

def module : String :=
  "package warden.authz\n" ++
  "\n" ++
  "import rego.v1\n" ++
  "\n" ++
  "default allow := false\n" ++
  "\n" ++
  "# A role holding \"*\" may do anything.\n" ++
  "allow if \x7b\n" ++
  "\tsome role in input.roles\n" ++
  "\t\"*\" in roles[role]\n" ++
  "\x7d\n" ++
  "\n" ++
  "allow if \x7b\n" ++
  "\tsome role in input.roles\n" ++
  "\tinput.action in roles[role]\n" ++
  "\x7d\n" ++
  "\n" ++
  "roles := \x7b\n" ++
  "\t\"owner\": [\"*\"],\n" ++
  "\t\"admin\": [\"*\"],\n" ++
  "\t\"finance\": [\n" ++
  "\t\t\"payment.create\",\n" ++
  "\t\t\"payment.read\",\n" ++
  "\t\t\"refund.create\",\n" ++
  "\t\t\"ledger.read\",\n" ++
  "\t\t\"ledger.update\",\n" ++
  "\t\t\"transaction.read\",\n" ++
  "\t\t\"transaction.update\"\n" ++
  "\t],\n" ++
  "\t\"developer\": [\n" ++
  "\t\t\"zone.create\",\n" ++
  "\t\t\"zone.read\",\n" ++
  "\t\t\"zone.update\",\n" ++
  "\t\t\"flow.create\",\n" ++
  "\t\t\"flow.deploy\",\n" ++
  "\t\t\"flow.read\",\n" ++
  "\t\t\"api_key.create\",\n" ++
  "\t\t\"api_key.read\",\n" ++
  "\t\t\"ledger.read\",\n" ++
  "\t\t\"transaction.read\"\n" ++
  "\t],\n" ++
  "\t\"member\": [\n" ++
  "\t\t\"zone.read\",\n" ++
  "\t\t\"flow.read\",\n" ++
  "\t\t\"ledger.read\",\n" ++
  "\t\t\"transaction.read\"\n" ++
  "\t]\n" ++
  "\x7d\n"

def roleDocument : String :=
  "\x7b\n" ++
  "  \"owner\": [\"*\"],\n" ++
  "  \"admin\": [\"*\"],\n" ++
  "  \"finance\": [\n" ++
  "    \"payment.create\",\n" ++
  "    \"payment.read\",\n" ++
  "    \"refund.create\",\n" ++
  "    \"ledger.read\",\n" ++
  "    \"ledger.update\",\n" ++
  "    \"transaction.read\",\n" ++
  "    \"transaction.update\"\n" ++
  "  ],\n" ++
  "  \"developer\": [\n" ++
  "    \"zone.create\",\n" ++
  "    \"zone.read\",\n" ++
  "    \"zone.update\",\n" ++
  "    \"flow.create\",\n" ++
  "    \"flow.deploy\",\n" ++
  "    \"flow.read\",\n" ++
  "    \"api_key.create\",\n" ++
  "    \"api_key.read\",\n" ++
  "    \"ledger.read\",\n" ++
  "    \"transaction.read\"\n" ++
  "  ],\n" ++
  "  \"member\": [\n" ++
  "    \"zone.read\",\n" ++
  "    \"flow.read\",\n" ++
  "    \"ledger.read\",\n" ++
  "    \"transaction.read\"\n" ++
  "  ]\n" ++
  "\x7d\n"

end Clearance.Policy.Shipped
