import ReliabilityLab.Documents

/-!
# Frozen programs

The programs whose bytes the frozen protocols and the release evidence identify by a digest,
by their lines.
-/

namespace ReliabilityLab

namespace Programs

/-- The validator of traces, which is the detector of the trace-integrity evaluation. -/
def traceIntegrity : List String :=
  ["\"\"\"Deterministic trace-integrity validation and mutation application.",
    "",
    "The validator operates on repository-authored trace records only. It does not",
    "contact external providers or establish production correctness. The mutation",
    "corpus that exercises this detector is frozen separately before aggregate",
    "execution.",
    "\"\"\"",
    "",
    "from __future__ import annotations",
    "",
    "import copy",
    "import hashlib",
    "import json",
    "from collections.abc import Mapping",
    "from typing import Any",
    "",
    "_RECORD_KINDS = \x7b",
    "    \"runtime_event\",",
    "    \"approval\",",
    "    \"effect\",",
    "    \"checkpoint\",",
    "    \"provider_evidence\",",
    "    \"reconciliation_completion\",",
    "\x7d",
    "_EVENT_KINDS = \x7b\"output\", \"completed\", \"failed\"\x7d",
    "_READBACK_STATES = \x7b\"present\", \"absent\", \"ambiguous\"\x7d",
    "_DECISIONS = \x7b\"approved\", \"denied\"\x7d",
    "",
    "",
    "def _is_sha256(value: object) -> bool:",
    "    if not isinstance(value, str) or len(value) != 64:",
    "        return False",
    "    try:",
    "        int(value, 16)",
    "    except ValueError:",
    "        return False",
    "    return value == value.lower()",
    "",
    "",
    "def effect_fingerprint(provider: str, operation_id: str, tool: str, payload_sha256: " ++
      "str) -> str:",
    "    \"\"\"Return the canonical trace-level fingerprint for one exact effect.\"\"\"",
    "",
    "    canonical = json.dumps(",
    "        [provider, operation_id, tool, payload_sha256],",
    "        ensure_ascii=False,",
    "        separators=(\",\", \":\"),",
    "    )",
    "    return hashlib.sha256(canonical.encode()).hexdigest()",
    "",
    "",
    "def _pointer_parent(document: object, pointer: str) -> tuple[object, str]:",
    "    if not pointer.startswith(\"/\"):",
    "        raise ValueError(\"mutation path must be an absolute JSON pointer\")",
    "    tokens = [token.replace(\"~1\", \"/\").replace(\"~0\", \"~\") for token in " ++
      "pointer[1:].split(\"/\")]",
    "    if not tokens or tokens == [\"\"]:",
    "        raise ValueError(\"mutation path must target a child value\")",
    "    current: object = document",
    "    for token in tokens[:-1]:",
    "        if isinstance(current, list):",
    "            current = current[int(token)]",
    "        elif isinstance(current, dict):",
    "            current = current[token]",
    "        else:",
    "            raise TypeError(f\"mutation path crosses a scalar at \x7btoken!r\x7d\")",
    "    return current, tokens[-1]",
    "",
    "",
    "def apply_mutation(trace: Mapping[str, Any], mutation: Mapping[str, Any]) -> dict[str, Any]:",
    "    \"\"\"Apply one deterministic replace/remove mutation to a deep-copied trace.\"\"\"",
    "",
    "    mutated = copy.deepcopy(dict(trace))",
    "    operator = mutation.get(\"operator\")",
    "    path = mutation.get(\"path\")",
    "    if not isinstance(path, str):",
    "        raise TypeError(\"mutation path must be a string\")",
    "    parent, token = _pointer_parent(mutated, path)",
    "    if operator == \"replace\":",
    "        if \"value\" not in mutation:",
    "            raise ValueError(\"replace mutation requires value\")",
    "        if isinstance(parent, list):",
    "            parent[int(token)] = copy.deepcopy(mutation[\"value\"])",
    "        elif isinstance(parent, dict):",
    "            if token not in parent:",
    "                raise KeyError(token)",
    "            parent[token] = copy.deepcopy(mutation[\"value\"])",
    "        else:",
    "            raise ValueError(\"replace target parent must be a list or object\")",
    "    elif operator == \"remove\":",
    "        if isinstance(parent, list):",
    "            del parent[int(token)]",
    "        elif isinstance(parent, dict):",
    "            if token not in parent:",
    "                raise KeyError(token)",
    "            del parent[token]",
    "        else:",
    "            raise ValueError(\"remove target parent must be a list or object\")",
    "    else:",
    "        raise ValueError(f\"unsupported mutation operator: \x7boperator!r\x7d\")",
    "    return mutated",
    "",
    "",
    "def validate_trace(trace: Mapping[str, Any]) -> tuple[str, ...]:",
    "    \"\"\"Return deterministic integrity violations for one canonical trace.\"\"\"",
    "",
    "    violations: set[str] = set()",
    "    scope = trace.get(\"scope\")",
    "    records = trace.get(\"records\")",
    "    if not isinstance(scope, Mapping):",
    "        return (\"scope_missing_or_invalid\",)",
    "    if not isinstance(records, list):",
    "        return (\"records_missing_or_invalid\",)",
    "",
    "    run_id = scope.get(\"run_id\")",
    "    turn_id = scope.get(\"turn_id\")",
    "    provider = scope.get(\"provider\")",
    "    operation_id = scope.get(\"operation_id\")",
    "    for name, value in (",
    "        (\"run_id\", run_id),",
    "        (\"turn_id\", turn_id),",
    "        (\"provider\", provider),",
    "        (\"operation_id\", operation_id),",
    "    ):",
    "        if not isinstance(value, str) or not value:",
    "            violations.add(f\"scope_\x7bname\x7d_invalid\")",
    "",
    "    sequences: list[int] = []",
    "    record_ids: list[str] = []",
    "    event_ids: set[str] = set()",
    "    binding: tuple[str, str] | None = None",
    "    approved_sequence: int | None = None",
    "    denied_sequence: int | None = None",
    "    expected_effect: str | None = None",
    "    checkpoints: list[Mapping[str, Any]] = []",
    "    evidence_by_id: dict[str, Mapping[str, Any]] = \x7b\x7d",
    "    evidence_history: list[Mapping[str, Any]] = []",
    "    completion_count = 0",
    "",
    "    for index, record in enumerate(records):",
    "        if not isinstance(record, Mapping):",
    "            violations.add(f\"record_\x7bindex\x7d_invalid\")",
    "            continue",
    "        record_id = record.get(\"record_id\")",
    "        sequence = record.get(\"sequence\")",
    "        kind = record.get(\"kind\")",
    "        if not isinstance(record_id, str) or not record_id:",
    "            violations.add(\"record_id_invalid\")",
    "        else:",
    "            record_ids.append(record_id)",
    "        if not isinstance(sequence, int) or isinstance(sequence, bool) or sequence <= 0:",
    "            violations.add(\"record_sequence_invalid\")",
    "        else:",
    "            sequences.append(sequence)",
    "        if kind not in _RECORD_KINDS:",
    "            violations.add(\"record_kind_invalid\")",
    "            continue",
    "",
    "        if kind == \"runtime_event\":",
    "            if record.get(\"run_id\") != run_id:",
    "                violations.add(\"event_run_scope_mismatch\")",
    "            if record.get(\"turn_id\") != turn_id:",
    "                violations.add(\"event_turn_scope_mismatch\")",
    "            event_id = record.get(\"event_id\")",
    "            if not isinstance(event_id, str) or not event_id:",
    "                violations.add(\"event_id_invalid\")",
    "            elif event_id in event_ids:",
    "                violations.add(\"event_id_duplicate\")",
    "            else:",
    "                event_ids.add(event_id)",
    "            if record.get(\"event_kind\") not in _EVENT_KINDS:",
    "                violations.add(\"event_kind_invalid\")",
    "            if not _is_sha256(record.get(\"payload_sha256\")):",
    "                violations.add(\"event_payload_sha256_invalid\")",
    "            continue",
    "",
    "        if kind == \"checkpoint\":",
    "            if record.get(\"run_id\") != run_id:",
    "                violations.add(\"checkpoint_run_scope_mismatch\")",
    "            checkpoints.append(record)",
    "            continue",
    "",
    "        if record.get(\"operation_id\") != operation_id:",
    "            violations.add(\"operation_scope_mismatch\")",
    "        if record.get(\"provider\") != provider:",
    "            violations.add(\"provider_scope_mismatch\")",
    "",
    "        if kind in \x7b\"approval\", \"effect\"\x7d:",
    "            tool = record.get(\"tool\")",
    "            payload_sha256 = record.get(\"payload_sha256\")",
    "            if not isinstance(tool, str) or not tool:",
    "                violations.add(\"operation_tool_invalid\")",
    "            if not _is_sha256(payload_sha256):",
    "                violations.add(\"operation_payload_sha256_invalid\")",
    "            if isinstance(tool, str) and _is_sha256(payload_sha256):",
    "                candidate_binding = (tool, payload_sha256)",
    "                if binding is None:",
    "                    binding = candidate_binding",
    "                    if isinstance(provider, str) and isinstance(operation_id, str):",
    "                        expected_effect = effect_fingerprint(",
    "                            provider, operation_id, tool, payload_sha256",
    "                        )",
    "                elif binding != candidate_binding:",
    "                    violations.add(\"approval_effect_binding_mismatch\")",
    "",
    "        if kind == \"approval\":",
    "            decision = record.get(\"decision\")",
    "            if decision not in _DECISIONS:",
    "                violations.add(\"approval_decision_invalid\")",
    "            elif isinstance(sequence, int):",
    "                if decision == \"approved\":",
    "                    approved_sequence = sequence",
    "                else:",
    "                    denied_sequence = sequence",
    "            if expected_effect is not None and record.get(\"effect_sha256\") != " ++
      "expected_effect:",
    "                violations.add(\"approval_effect_fingerprint_mismatch\")",
    "            continue",
    "",
    "        if kind == \"effect\":",
    "            if expected_effect is not None and record.get(\"effect_sha256\") != " ++
      "expected_effect:",
    "                violations.add(\"effect_fingerprint_mismatch\")",
    "            if isinstance(sequence, int):",
    "                if approved_sequence is None or approved_sequence >= sequence:",
    "                    violations.add(\"effect_without_prior_approval\")",
    "                if denied_sequence is not None and denied_sequence < sequence:",
    "                    violations.add(\"effect_after_denial\")",
    "            continue",
    "",
    "        if kind == \"provider_evidence\":",
    "            evidence_id = record.get(\"evidence_id\")",
    "            revision = record.get(\"revision\")",
    "            readback = record.get(\"readback\")",
    "            if not isinstance(evidence_id, str) or not evidence_id:",
    "                violations.add(\"provider_evidence_id_invalid\")",
    "            elif evidence_id in evidence_by_id:",
    "                violations.add(\"provider_evidence_id_duplicate\")",
    "            else:",
    "                evidence_by_id[evidence_id] = record",
    "            if not isinstance(revision, int) or isinstance(revision, bool) or revision < 0:",
    "                violations.add(\"provider_revision_invalid\")",
    "            if readback not in _READBACK_STATES:",
    "                violations.add(\"provider_readback_invalid\")",
    "            if expected_effect is not None and record.get(\"effect_sha256\") != " ++
      "expected_effect:",
    "                violations.add(\"provider_effect_fingerprint_mismatch\")",
    "            if evidence_history:",
    "                previous = evidence_history[-1]",
    "                previous_revision = previous.get(\"revision\")",
    "                if isinstance(previous_revision, int) and isinstance(revision, int):",
    "                    if revision < previous_revision:",
    "                        violations.add(\"provider_revision_rollback\")",
    "                    elif revision == previous_revision and (",
    "                        previous.get(\"readback\") != readback",
    "                        or previous.get(\"effect_sha256\") != record.get(\"effect_sha256\")",
    "                    ):",
    "                        violations.add(\"provider_same_revision_conflict\")",
    "            evidence_history.append(record)",
    "            continue",
    "",
    "        if kind == \"reconciliation_completion\":",
    "            completion_count += 1",
    "            evidence_id = record.get(\"evidence_id\")",
    "            revision = record.get(\"revision\")",
    "            evidence = evidence_by_id.get(evidence_id) if isinstance(evidence_id, str) " ++
      "else None",
    "            if completion_count > 1:",
    "                violations.add(\"multiple_reconciliation_completions\")",
    "            if expected_effect is not None and record.get(\"effect_sha256\") != " ++
      "expected_effect:",
    "                violations.add(\"completion_effect_fingerprint_mismatch\")",
    "            if evidence is None:",
    "                violations.add(\"completion_evidence_missing\")",
    "            else:",
    "                if evidence.get(\"readback\") != \"present\":",
    "                    violations.add(\"completion_requires_present_evidence\")",
    "                if evidence.get(\"revision\") != revision:",
    "                    violations.add(\"completion_revision_mismatch\")",
    "                if evidence.get(\"effect_sha256\") != record.get(\"effect_sha256\"):",
    "                    violations.add(\"completion_evidence_effect_mismatch\")",
    "            revisions = [",
    "                item.get(\"revision\")",
    "                for item in evidence_history",
    "                if isinstance(item.get(\"revision\"), int)",
    "            ]",
    "            if revisions and revision != max(revisions):",
    "                violations.add(\"completion_not_latest_provider_revision\")",
    "",
    "    if sequences != sorted(sequences) or len(sequences) != len(set(sequences)):",
    "        violations.add(\"record_sequence_not_strictly_increasing\")",
    "    if len(record_ids) != len(set(record_ids)):",
    "        violations.add(\"record_id_duplicate\")",
    "",
    "    previous_checkpoint: Mapping[str, Any] | None = None",
    "    for checkpoint in checkpoints:",
    "        checkpoint_id = checkpoint.get(\"checkpoint_id\")",
    "        checkpoint_sequence = checkpoint.get(\"checkpoint_sequence\")",
    "        completed_count = checkpoint.get(\"completed_count\")",
    "        plan_sha256 = checkpoint.get(\"plan_sha256\")",
    "        if not isinstance(checkpoint_id, str) or not checkpoint_id:",
    "            violations.add(\"checkpoint_id_invalid\")",
    "        if not isinstance(checkpoint_sequence, int) or checkpoint_sequence < 0:",
    "            violations.add(\"checkpoint_sequence_invalid\")",
    "        if not isinstance(completed_count, int) or completed_count < 0:",
    "            violations.add(\"checkpoint_completed_count_invalid\")",
    "        if not _is_sha256(plan_sha256):",
    "            violations.add(\"checkpoint_plan_sha256_invalid\")",
    "        if previous_checkpoint is None:",
    "            if checkpoint.get(\"parent_checkpoint_id\") is not None:",
    "                violations.add(\"checkpoint_root_parent_not_null\")",
    "            if checkpoint_sequence != 0:",
    "                violations.add(\"checkpoint_root_sequence_not_zero\")",
    "        else:",
    "            if checkpoint.get(\"parent_checkpoint_id\") != " ++
      "previous_checkpoint.get(\"checkpoint_id\"):",
    "                violations.add(\"checkpoint_parent_mismatch\")",
    "            previous_sequence = previous_checkpoint.get(\"checkpoint_sequence\")",
    "            if isinstance(previous_sequence, int) and checkpoint_sequence != " ++
      "previous_sequence + 1:",
    "                violations.add(\"checkpoint_sequence_gap\")",
    "            if plan_sha256 != previous_checkpoint.get(\"plan_sha256\"):",
    "                violations.add(\"checkpoint_plan_drift\")",
    "            previous_completed = previous_checkpoint.get(\"completed_count\")",
    "            if (",
    "                isinstance(previous_completed, int)",
    "                and isinstance(completed_count, int)",
    "                and completed_count < previous_completed",
    "            ):",
    "                violations.add(\"checkpoint_progress_rollback\")",
    "        previous_checkpoint = checkpoint",
    "",
    "    return tuple(sorted(violations))",
    "",
    "",
    "def evaluate_trace_corpus(",
    "    baseline_document: Mapping[str, Any], mutation_document: Mapping[str, Any]",
    ") -> dict[str, Any]:",
    "    \"\"\"Evaluate clean traces and frozen mutations with deterministic ordering.",
    "",
    "    This function is intentionally pure. The freeze milestone does not execute it",
    "    against the frozen corpus; a later run can do so twice in independent",
    "    processes after verifying the frozen commit and input hashes.",
    "    \"\"\"",
    "",
    "    traces = baseline_document.get(\"traces\")",
    "    mutations = mutation_document.get(\"mutations\")",
    "    if not isinstance(traces, list) or not isinstance(mutations, list):",
    "        raise TypeError(\"baseline and mutation documents must contain lists\")",
    "    by_id = \x7btrace[\"trace_id\"]: trace for trace in traces\x7d",
    "    clean_results = []",
    "    for trace in traces:",
    "        violations = validate_trace(trace)",
    "        clean_results.append(",
    "            \x7b",
    "                \"trace_id\": trace[\"trace_id\"],",
    "                \"accepted\": not violations,",
    "                \"violations\": list(violations),",
    "            \x7d",
    "        )",
    "    mutation_results = []",
    "    for mutation in mutations:",
    "        base = by_id[mutation[\"base_trace_id\"]]",
    "        mutated = apply_mutation(base, mutation)",
    "        violations = validate_trace(mutated)",
    "        mutation_results.append(",
    "            \x7b",
    "                \"mutation_id\": mutation[\"id\"],",
    "                \"detected\": bool(violations),",
    "                \"violations\": list(violations),",
    "            \x7d",
    "        )",
    "    false_positives = sum(not item[\"accepted\"] for item in clean_results)",
    "    false_negatives = sum(not item[\"detected\"] for item in mutation_results)",
    "    clean_count = len(clean_results)",
    "    mutation_count = len(mutation_results)",
    "    return \x7b",
    "        \"schema_version\": \"carl.trace-integrity-result.v1\",",
    "        \"clean_results\": clean_results,",
    "        \"mutation_results\": mutation_results,",
    "        \"metrics\": \x7b",
    "            \"clean_trace_count\": clean_count,",
    "            \"clean_trace_accept_rate\": (clean_count - false_positives) / clean_count,",
    "            \"mutation_count\": mutation_count,",
    "            \"mutation_detection_rate\": (mutation_count - false_negatives) / mutation_count,",
    "            \"false_positive_count\": false_positives,",
    "            \"false_negative_count\": false_negatives,",
    "            \"detector_error_count\": 0,",
    "        \x7d,",
    "    \x7d"]

/-- The verifier of the reliability publication. -/
def reliabilityVerifier : List String :=
  ["\"\"\"Verify the published CARL reliability-evaluation v1 result without redefining " ++
      "gates.\"\"\"",
    "",
    "from __future__ import annotations",
    "",
    "import hashlib",
    "import json",
    "from pathlib import Path",
    "from typing import Any",
    "",
    "ROOT = Path(__file__).resolve().parent",
    "PROTOCOL = ROOT / \"PROTOCOL.json\"",
    "SCENARIOS = ROOT / \"SCENARIOS.json\"",
    "RESULTS = ROOT / \"RESULTS.json\"",
    "FREEZE_COMMIT_SHA = \"f11c5d441261fbbd07be23b806c53d7c685d8560\"",
    "EXPECTED_PROTOCOL_SHA256 = " ++
      "\"bba37a4f3f5733bd51af35eae1286090dcd36929fbaf711a28ffccc0735819df\"",
    "",
    "",
    "def _sha256_bytes(payload: bytes) -> str:",
    "    return hashlib.sha256(payload).hexdigest()",
    "",
    "",
    "def _sha256(path: Path) -> str:",
    "    return _sha256_bytes(path.read_bytes())",
    "",
    "",
    "def _gate_passed(actual: float, operator: str, threshold: float) -> bool:",
    "    if operator == \"eq\":",
    "        return actual == threshold",
    "    raise ValueError(f\"unsupported frozen gate operator: \x7boperator\x7d\")",
    "",
    "",
    "def derive_gate_results(",
    "    protocol: dict[str, Any], metrics: dict[str, Any]",
    ") -> dict[str, dict[str, Any]]:",
    "    gates = protocol.get(\"metrics\")",
    "    if not isinstance(gates, dict):",
    "        raise TypeError(\"protocol metrics must be an object\")",
    "    derived: dict[str, dict[str, Any]] = \x7b\x7d",
    "    for name, specification in sorted(gates.items()):",
    "        if not isinstance(specification, dict):",
    "            raise TypeError(f\"gate specification must be an object: \x7bname\x7d\")",
    "        operator = specification.get(\"operator\")",
    "        threshold = specification.get(\"threshold\")",
    "        actual = metrics.get(name)",
    "        if not isinstance(operator, str):",
    "            raise TypeError(f\"gate operator must be a string: \x7bname\x7d\")",
    "        if not isinstance(threshold, (int, float)) or isinstance(threshold, bool):",
    "            raise TypeError(f\"gate threshold must be numeric: \x7bname\x7d\")",
    "        if not isinstance(actual, (int, float)) or isinstance(actual, bool):",
    "            raise TypeError(f\"result metric must be numeric: \x7bname\x7d\")",
    "        derived[name] = \x7b",
    "            \"actual\": actual,",
    "            \"operator\": operator,",
    "            \"threshold\": threshold,",
    "            \"passed\": _gate_passed(actual, operator, threshold),",
    "        \x7d",
    "    return derived",
    "",
    "",
    "def validate(",
    "    protocol: dict[str, Any],",
    "    scenarios: dict[str, Any],",
    "    results: dict[str, Any],",
    "    run_payloads: tuple[bytes, ...],",
    "    *,",
    "    protocol_sha256: str,",
    "    scenario_sha256: str,",
    ") -> list[str]:",
    "    errors: list[str] = []",
    "    execution = protocol.get(\"execution\")",
    "    if not isinstance(execution, dict):",
    "        return [\"protocol execution controls are missing\"]",
    "    required_runs = execution.get(\"independent_runs_required\")",
    "    if not isinstance(required_runs, int) or required_runs < 1:",
    "        return [\"independent_runs_required must be a positive integer\"]",
    "    if len(run_payloads) != required_runs:",
    "        errors.append(\"published run count differs from the frozen requirement\")",
    "",
    "    if protocol_sha256 != EXPECTED_PROTOCOL_SHA256:",
    "        errors.append(\"PROTOCOL.json bytes differ from the frozen commit\")",
    "    manifest = protocol.get(\"scenario_manifest\")",
    "    if not isinstance(manifest, dict):",
    "        errors.append(\"scenario_manifest is missing\")",
    "    else:",
    "        if scenario_sha256 != manifest.get(\"sha256\"):",
    "            errors.append(\"SCENARIOS.json bytes differ from the frozen manifest\")",
    "        scenario_items = scenarios.get(\"scenarios\")",
    "        if isinstance(scenario_items, list) and len(scenario_items) != manifest.get(",
    "            \"scenario_count\"",
    "        ):",
    "            errors.append(\"scenario count differs from the frozen manifest\")",
    "",
    "    byte_equal = bool(run_payloads) and all(",
    "        payload == run_payloads[0] for payload in run_payloads[1:]",
    "    )",
    "    if execution.get(\"normalized_output_byte_equal_required\") is True and not byte_equal:",
    "        errors.append(\"normalized independent run outputs are not byte-identical\")",
    "",
    "    try:",
    "        normalized = json.loads(run_payloads[0]) if run_payloads else \x7b\x7d",
    "    except json.JSONDecodeError:",
    "        normalized = \x7b\x7d",
    "        errors.append(\"normalized run artifact is not valid JSON\")",
    "",
    "    if results.get(\"schema_version\") != \"carl.reliability-evaluation-publication.v1\":",
    "        errors.append(\"result publication schema_version mismatch\")",
    "    if results.get(\"protocol_id\") != protocol.get(\"protocol_id\"):",
    "        errors.append(\"result protocol_id mismatch\")",
    "    if results.get(\"freeze_commit_sha\") != FREEZE_COMMIT_SHA:",
    "        errors.append(\"freeze commit mismatch\")",
    "    if results.get(\"protocol_sha256\") != protocol_sha256:",
    "        errors.append(\"published protocol SHA-256 mismatch\")",
    "    if results.get(\"scenario_manifest_sha256\") != scenario_sha256:",
    "        errors.append(\"published scenario SHA-256 mismatch\")",
    "    if results.get(\"claim_boundary\") != protocol.get(\"claim_boundary\"):",
    "        errors.append(\"published claim boundary differs from the frozen protocol\")",
    "    if results.get(\"metrics\") != normalized.get(\"metrics\"):",
    "        errors.append(\"published metrics differ from the normalized run\")",
    "    if results.get(\"scenario_results\") != normalized.get(\"scenario_results\"):",
    "        errors.append(\"published scenario results differ from the normalized run\")",
    "",
    "    expected_runs = [",
    "        \x7b",
    "            \"path\": f\"evals/reliability_v1/artifacts/run-\x7bindex\x7d.json\",",
    "            \"sha256\": _sha256_bytes(payload),",
    "        \x7d",
    "        for index, payload in enumerate(run_payloads, start=1)",
    "    ]",
    "    if results.get(\"run_artifacts\") != expected_runs:",
    "        errors.append(\"published run-artifact identities differ from the executed runs\")",
    "",
    "    reproduction = results.get(\"reproduction\")",
    "    expected_reproduction = \x7b",
    "        \"independent_runs_required\": required_runs,",
    "        \"independent_runs_recorded\": len(run_payloads),",
    "        \"normalized_output_byte_identical\": byte_equal,",
    "        \"normalized_output_sha256\": _sha256_bytes(run_payloads[0]) if run_payloads " ++
      "else None,",
    "    \x7d",
    "    if reproduction != expected_reproduction:",
    "        errors.append(\"published reproduction summary differs from the executed runs\")",
    "",
    "    metrics = normalized.get(\"metrics\")",
    "    if not isinstance(metrics, dict):",
    "        errors.append(\"normalized run metrics are missing\")",
    "        derived: dict[str, dict[str, Any]] = \x7b\x7d",
    "    else:",
    "        try:",
    "            derived = derive_gate_results(protocol, metrics)",
    "        except (TypeError, ValueError) as exc:",
    "            errors.append(str(exc))",
    "            derived = \x7b\x7d",
    "    if results.get(\"frozen_gates\") != derived:",
    "        errors.append(\"published gate results differ from the frozen gate evaluation\")",
    "    disposition = \"pass\" if derived and all(item[\"passed\"] for item in " ++
      "derived.values()) else \"fail\"",
    "    if results.get(\"aggregate_disposition\") != disposition:",
    "        errors.append(\"aggregate disposition differs from the frozen gate evaluation\")",
    "    return errors",
    "",
    "",
    "def main() -> int:",
    "    protocol = json.loads(PROTOCOL.read_text(encoding=\"utf-8\"))",
    "    scenarios = json.loads(SCENARIOS.read_text(encoding=\"utf-8\"))",
    "    results = json.loads(RESULTS.read_text(encoding=\"utf-8\"))",
    "    execution = protocol[\"execution\"]",
    "    count = execution[\"independent_runs_required\"]",
    "    run_payloads = tuple(",
    "        (ROOT / \"artifacts\" / f\"run-\x7bindex\x7d.json\").read_bytes() for index in " ++
      "range(1, count + 1)",
    "    )",
    "    errors = validate(",
    "        protocol,",
    "        scenarios,",
    "        results,",
    "        run_payloads,",
    "        protocol_sha256=_sha256(PROTOCOL),",
    "        scenario_sha256=_sha256(SCENARIOS),",
    "    )",
    "    if errors:",
    "        for error in errors:",
    "            print(f\"FAIL: \x7berror\x7d\")",
    "        return 1",
    "    print(",
    "        \"PASS: published reliability-evaluation v1 reproduces byte-for-byte across \"",
    "        f\"\x7bcount\x7d independent runs and matches every frozen gate/result identity\"",
    "    )",
    "    return 0",
    "",
    "",
    "if __name__ == \"__main__\":",
    "    raise SystemExit(main())"]

/-- The verifier of the trace-integrity publication. -/
def traceVerifier : List String :=
  ["\"\"\"Verify the published CARL trace-integrity v1 result without redefining gates.\"\"\"",
    "",
    "from __future__ import annotations",
    "",
    "import hashlib",
    "import json",
    "from pathlib import Path",
    "from typing import Any",
    "",
    "ROOT = Path(__file__).resolve().parent",
    "REPO = ROOT.parents[1]",
    "PROTOCOL = ROOT / \"PROTOCOL.json\"",
    "TRACE_SCHEMA = ROOT / \"TRACE_SCHEMA.json\"",
    "BASELINES = ROOT / \"BASELINE_TRACES.json\"",
    "MUTATIONS = ROOT / \"MUTATIONS.json\"",
    "RESULTS = ROOT / \"RESULTS.json\"",
    "DETECTOR = REPO / \"src/agent_reliability_lab/trace_integrity.py\"",
    "FREEZE_COMMIT_SHA = \"cee88ebde76d67e99721796bf292f553f88fb5a3\"",
    "EXPECTED_PROTOCOL_SHA256 = " ++
      "\"13c86ce5b0ad1a641d21491838780127d3b2d69e8ad1e2b9abbad6bdaf5a9ea4\"",
    "",
    "",
    "def _sha256_bytes(payload: bytes) -> str:",
    "    return hashlib.sha256(payload).hexdigest()",
    "",
    "",
    "def _sha256(path: Path) -> str:",
    "    return _sha256_bytes(path.read_bytes())",
    "",
    "",
    "def _gate_passed(actual: float, operator: str, threshold: float) -> bool:",
    "    if operator == \"eq\":",
    "        return actual == threshold",
    "    raise ValueError(f\"unsupported frozen gate operator: \x7boperator\x7d\")",
    "",
    "",
    "def derive_gate_results(",
    "    protocol: dict[str, Any], metrics: dict[str, Any]",
    ") -> dict[str, dict[str, Any]]:",
    "    gates = protocol.get(\"detection_gates\")",
    "    if not isinstance(gates, dict):",
    "        raise TypeError(\"protocol detection_gates must be an object\")",
    "    derived: dict[str, dict[str, Any]] = \x7b\x7d",
    "    for name, specification in sorted(gates.items()):",
    "        if not isinstance(specification, dict):",
    "            raise TypeError(f\"gate specification must be an object: \x7bname\x7d\")",
    "        operator = specification.get(\"operator\")",
    "        threshold = specification.get(\"threshold\")",
    "        actual = metrics.get(name)",
    "        if not isinstance(operator, str):",
    "            raise TypeError(f\"gate operator must be a string: \x7bname\x7d\")",
    "        if not isinstance(threshold, (int, float)) or isinstance(threshold, bool):",
    "            raise TypeError(f\"gate threshold must be numeric: \x7bname\x7d\")",
    "        if not isinstance(actual, (int, float)) or isinstance(actual, bool):",
    "            raise TypeError(f\"result metric must be numeric: \x7bname\x7d\")",
    "        derived[name] = \x7b",
    "            \"actual\": actual,",
    "            \"operator\": operator,",
    "            \"threshold\": threshold,",
    "            \"passed\": _gate_passed(actual, operator, threshold),",
    "        \x7d",
    "    return derived",
    "",
    "",
    "def validate(",
    "    protocol: dict[str, Any],",
    "    results: dict[str, Any],",
    "    run_payloads: tuple[bytes, ...],",
    "    *,",
    "    protocol_sha256: str,",
    "    detector_sha256: str,",
    "    schema_sha256: str,",
    "    baselines_sha256: str,",
    "    mutations_sha256: str,",
    ") -> list[str]:",
    "    errors: list[str] = []",
    "    execution = protocol.get(\"execution\")",
    "    if not isinstance(execution, dict):",
    "        return [\"protocol execution controls are missing\"]",
    "    required_runs = execution.get(\"independent_runs_required\")",
    "    if not isinstance(required_runs, int) or required_runs < 1:",
    "        return [\"independent_runs_required must be a positive integer\"]",
    "    if len(run_payloads) != required_runs:",
    "        errors.append(\"published run count differs from the frozen requirement\")",
    "",
    "    if protocol_sha256 != EXPECTED_PROTOCOL_SHA256:",
    "        errors.append(\"PROTOCOL.json bytes differ from the frozen commit\")",
    "    expected_frozen_artifacts = \x7b",
    "        \"baseline_traces_sha256\": protocol[\"artifacts\"][\"baseline_traces\"][\"sha256\"],",
    "        \"detector_sha256\": protocol[\"detector\"][\"sha256\"],",
    "        \"mutation_corpus_sha256\": protocol[\"artifacts\"][\"mutation_corpus\"][\"sha256\"],",
    "        \"trace_schema_sha256\": protocol[\"artifacts\"][\"trace_schema\"][\"sha256\"],",
    "    \x7d",
    "    actual_frozen_artifacts = \x7b",
    "        \"baseline_traces_sha256\": baselines_sha256,",
    "        \"detector_sha256\": detector_sha256,",
    "        \"mutation_corpus_sha256\": mutations_sha256,",
    "        \"trace_schema_sha256\": schema_sha256,",
    "    \x7d",
    "    if actual_frozen_artifacts != expected_frozen_artifacts:",
    "        errors.append(\"frozen detector or input bytes differ from PROTOCOL.json\")",
    "",
    "    byte_equal = bool(run_payloads) and all(",
    "        payload == run_payloads[0] for payload in run_payloads[1:]",
    "    )",
    "    if execution.get(\"normalized_output_byte_equal_required\") is True and not byte_equal:",
    "        errors.append(\"normalized independent run outputs are not byte-identical\")",
    "    try:",
    "        normalized = json.loads(run_payloads[0]) if run_payloads else \x7b\x7d",
    "    except json.JSONDecodeError:",
    "        normalized = \x7b\x7d",
    "        errors.append(\"normalized run artifact is not valid JSON\")",
    "",
    "    if results.get(\"schema_version\") != \"carl.trace-integrity-publication.v1\":",
    "        errors.append(\"result publication schema_version mismatch\")",
    "    if results.get(\"protocol_id\") != protocol.get(\"protocol_id\"):",
    "        errors.append(\"result protocol_id mismatch\")",
    "    if results.get(\"freeze_commit_sha\") != FREEZE_COMMIT_SHA:",
    "        errors.append(\"freeze commit mismatch\")",
    "    if results.get(\"protocol_sha256\") != protocol_sha256:",
    "        errors.append(\"published protocol SHA-256 mismatch\")",
    "    if results.get(\"frozen_artifacts\") != expected_frozen_artifacts:",
    "        errors.append(\"published frozen-artifact identities differ from the frozen " ++
      "protocol\")",
    "    if results.get(\"claim_boundary\") != protocol.get(\"claim_boundary\"):",
    "        errors.append(\"published claim boundary differs from the frozen protocol\")",
    "    if results.get(\"metrics\") != normalized.get(\"metrics\"):",
    "        errors.append(\"published metrics differ from the normalized run\")",
    "    if results.get(\"clean_results\") != normalized.get(\"clean_results\"):",
    "        errors.append(\"published clean results differ from the normalized run\")",
    "    if results.get(\"mutation_results\") != normalized.get(\"mutation_results\"):",
    "        errors.append(\"published mutation results differ from the normalized run\")",
    "",
    "    expected_runs = [",
    "        \x7b",
    "            \"path\": f\"evals/trace_integrity_v1/artifacts/run-\x7bindex\x7d.json\",",
    "            \"sha256\": _sha256_bytes(payload),",
    "        \x7d",
    "        for index, payload in enumerate(run_payloads, start=1)",
    "    ]",
    "    if results.get(\"run_artifacts\") != expected_runs:",
    "        errors.append(\"published run-artifact identities differ from the executed runs\")",
    "    expected_reproduction = \x7b",
    "        \"independent_runs_recorded\": len(run_payloads),",
    "        \"independent_runs_required\": required_runs,",
    "        \"normalized_output_byte_identical\": byte_equal,",
    "        \"normalized_output_sha256\": _sha256_bytes(run_payloads[0]) if run_payloads " ++
      "else None,",
    "    \x7d",
    "    if results.get(\"reproduction\") != expected_reproduction:",
    "        errors.append(\"published reproduction summary differs from the executed runs\")",
    "",
    "    metrics = normalized.get(\"metrics\")",
    "    if not isinstance(metrics, dict):",
    "        errors.append(\"normalized run metrics are missing\")",
    "        derived: dict[str, dict[str, Any]] = \x7b\x7d",
    "    else:",
    "        try:",
    "            derived = derive_gate_results(protocol, metrics)",
    "        except (TypeError, ValueError) as exc:",
    "            errors.append(str(exc))",
    "            derived = \x7b\x7d",
    "    if results.get(\"frozen_gates\") != derived:",
    "        errors.append(\"published gate results differ from the frozen gate evaluation\")",
    "    disposition = \"pass\" if derived and all(item[\"passed\"] for item in " ++
      "derived.values()) else \"fail\"",
    "    if results.get(\"aggregate_disposition\") != disposition:",
    "        errors.append(\"aggregate disposition differs from the frozen gate evaluation\")",
    "    return errors",
    "",
    "",
    "def main() -> int:",
    "    protocol = json.loads(PROTOCOL.read_text(encoding=\"utf-8\"))",
    "    results = json.loads(RESULTS.read_text(encoding=\"utf-8\"))",
    "    count = protocol[\"execution\"][\"independent_runs_required\"]",
    "    run_payloads = tuple(",
    "        (ROOT / \"artifacts\" / f\"run-\x7bindex\x7d.json\").read_bytes() for index in " ++
      "range(1, count + 1)",
    "    )",
    "    errors = validate(",
    "        protocol,",
    "        results,",
    "        run_payloads,",
    "        protocol_sha256=_sha256(PROTOCOL),",
    "        detector_sha256=_sha256(DETECTOR),",
    "        schema_sha256=_sha256(TRACE_SCHEMA),",
    "        baselines_sha256=_sha256(BASELINES),",
    "        mutations_sha256=_sha256(MUTATIONS),",
    "    )",
    "    if errors:",
    "        for error in errors:",
    "            print(f\"FAIL: \x7berror\x7d\")",
    "        return 1",
    "    print(",
    "        \"PASS: published trace-integrity v1 result reproduces byte-for-byte across \"",
    "        f\"\x7bcount\x7d independent runs and matches every frozen detector/input/gate " ++
      "identity\"",
    "    )",
    "    return 0",
    "",
    "",
    "if __name__ == \"__main__\":",
    "    raise SystemExit(main())"]

/-- The evaluator of the release gate. -/
def releaseEvaluator : List String :=
  ["\"\"\"Evaluate frozen CARL evidence publications against a combined release gate.\"\"\"",
    "",
    "from __future__ import annotations",
    "",
    "import hashlib",
    "import json",
    "import subprocess",
    "import sys",
    "from collections.abc import Callable",
    "from pathlib import Path",
    "from typing import Any",
    "",
    "ROOT = Path(__file__).resolve().parent",
    "REPO = ROOT.parents[1]",
    "PROTOCOL = ROOT / \"PROTOCOL.json\"",
    "EVIDENCE = ROOT / \"EVIDENCE.json\"",
    "",
    "VerifierRunner = Callable[[Path], tuple[int, str]]",
    "GitBlobReader = Callable[[Path, str, str], bytes | None]",
    "",
    "",
    "def _sha256_bytes(payload: bytes) -> str:",
    "    return hashlib.sha256(payload).hexdigest()",
    "",
    "",
    "def _sha256(path: Path) -> str:",
    "    return _sha256_bytes(path.read_bytes())",
    "",
    "",
    "def _git_blob(repo: Path, commit: str, path: str) -> bytes | None:",
    "    proc = subprocess.run(",
    "        [\"git\", \"-C\", str(repo), \"show\", f\"\x7bcommit\x7d:\x7bpath\x7d\"],",
    "        capture_output=True,",
    "        check=False,",
    "    )",
    "    return proc.stdout if proc.returncode == 0 else None",
    "",
    "",
    "def _run_verifier(path: Path) -> tuple[int, str]:",
    "    proc = subprocess.run(",
    "        [sys.executable, str(path)],",
    "        cwd=REPO,",
    "        capture_output=True,",
    "        text=True,",
    "        check=False,",
    "    )",
    "    output = (proc.stdout + proc.stderr).strip()",
    "    return proc.returncode, output",
    "",
    "",
    "def _check_blob_identity(",
    "    *,",
    "    repo: Path,",
    "    commit: str,",
    "    path: str,",
    "    expected_sha256: str,",
    "    git_blob_reader: GitBlobReader,",
    ") -> tuple[bool, str]:",
    "    payload = git_blob_reader(repo, commit, path)",
    "    if payload is None:",
    "        return False, \"pinned_git_blob_missing\"",
    "    if _sha256_bytes(payload) != expected_sha256:",
    "        return False, \"pinned_git_blob_sha256_mismatch\"",
    "    return True, \"ok\"",
    "",
    "",
    "def evaluate_source(",
    "    repo: Path,",
    "    source: dict[str, Any],",
    "    criteria: dict[str, Any],",
    "    *,",
    "    verifier_runner: VerifierRunner = _run_verifier,",
    "    git_blob_reader: GitBlobReader = _git_blob,",
    ") -> dict[str, Any]:",
    "    source_id = str(source.get(\"id\", \"unknown\"))",
    "    checks: dict[str, bool] = \x7b\x7d",
    "    errors: list[str] = []",
    "",
    "    identities = (",
    "        (",
    "            \"protocol\",",
    "            source.get(\"freeze_commit_sha\"),",
    "            source.get(\"protocol_path\"),",
    "            source.get(\"protocol_sha256\"),",
    "        ),",
    "        (",
    "            \"result\",",
    "            source.get(\"result_commit_sha\"),",
    "            source.get(\"result_path\"),",
    "            source.get(\"result_sha256\"),",
    "        ),",
    "        (",
    "            \"result_verifier\",",
    "            source.get(\"result_commit_sha\"),",
    "            source.get(\"result_verifier_path\"),",
    "            source.get(\"result_verifier_sha256\"),",
    "        ),",
    "    )",
    "    for label, commit, relpath, expected_sha in identities:",
    "        if not all(isinstance(value, str) and value for value in (commit, relpath, " ++
      "expected_sha)):",
    "            checks[f\"\x7blabel\x7d_identity_complete\"] = False",
    "            errors.append(f\"\x7blabel\x7d_identity_incomplete\")",
    "            continue",
    "        path = repo / relpath",
    "        exists = path.is_file()",
    "        checks[f\"\x7blabel\x7d_present\"] = exists",
    "        if not exists:",
    "            errors.append(f\"\x7blabel\x7d_missing\")",
    "            continue",
    "        current_matches = _sha256(path) == expected_sha",
    "        checks[f\"\x7blabel\x7d_current_sha256_matches\"] = current_matches",
    "        if not current_matches:",
    "            errors.append(f\"\x7blabel\x7d_current_sha256_mismatch\")",
    "        blob_ok, blob_error = _check_blob_identity(",
    "            repo=repo,",
    "            commit=commit,",
    "            path=relpath,",
    "            expected_sha256=expected_sha,",
    "            git_blob_reader=git_blob_reader,",
    "        )",
    "        checks[f\"\x7blabel\x7d_pinned_commit_sha256_matches\"] = blob_ok",
    "        if not blob_ok:",
    "            errors.append(f\"\x7blabel\x7d_\x7bblob_error\x7d\")",
    "",
    "    result_path = source.get(\"result_path\")",
    "    result: dict[str, Any] | None = None",
    "    if isinstance(result_path, str) and (repo / result_path).is_file():",
    "        try:",
    "            loaded = json.loads((repo / result_path).read_text(encoding=\"utf-8\"))",
    "            result = loaded if isinstance(loaded, dict) else None",
    "        except (json.JSONDecodeError, OSError):",
    "            result = None",
    "    checks[\"result_json_valid\"] = result is not None",
    "    if result is None:",
    "        errors.append(\"result_json_invalid\")",
    "    else:",
    "        expected_pairs = \x7b",
    "            \"schema_version\": source.get(\"result_schema_version\"),",
    "            \"protocol_id\": source.get(\"protocol_id\"),",
    "            \"freeze_commit_sha\": source.get(\"freeze_commit_sha\"),",
    "            \"protocol_sha256\": source.get(\"protocol_sha256\"),",
    "        \x7d",
    "        for key, expected in expected_pairs.items():",
    "            matched = result.get(key) == expected",
    "            checks[f\"result_\x7bkey\x7d_matches\"] = matched",
    "            if not matched:",
    "                errors.append(f\"result_\x7bkey\x7d_mismatch\")",
    "",
    "        disposition_ok = result.get(\"aggregate_disposition\") == criteria.get(",
    "            \"required_source_disposition\"",
    "        )",
    "        checks[\"source_disposition_passes\"] = disposition_ok",
    "        if not disposition_ok:",
    "            errors.append(\"source_disposition_not_release_ready\")",
    "",
    "        gates = result.get(\"frozen_gates\")",
    "        gates_ok = (",
    "            isinstance(gates, dict)",
    "            and bool(gates)",
    "            and all(",
    "                isinstance(item, dict) and item.get(\"passed\") is True for item in " ++
      "gates.values()",
    "            )",
    "        )",
    "        checks[\"all_frozen_source_gates_pass\"] = gates_ok",
    "        if not gates_ok:",
    "            errors.append(\"frozen_source_gate_failure\")",
    "",
    "        reproduction = result.get(\"reproduction\")",
    "        reproduction_ok = isinstance(reproduction, dict)",
    "        checks[\"reproduction_object_present\"] = reproduction_ok",
    "        if not reproduction_ok:",
    "            errors.append(\"reproduction_missing\")",
    "        else:",
    "            required = reproduction.get(\"independent_runs_required\")",
    "            recorded = reproduction.get(\"independent_runs_recorded\")",
    "            minimum = criteria.get(\"minimum_source_independent_runs\")",
    "            count_ok = (",
    "                isinstance(required, int)",
    "                and isinstance(recorded, int)",
    "                and isinstance(minimum, int)",
    "                and required >= minimum",
    "                and recorded == required",
    "            )",
    "            byte_ok = reproduction.get(\"normalized_output_byte_identical\") is True",
    "            checks[\"source_independent_runs_satisfied\"] = count_ok",
    "            checks[\"source_normalized_output_byte_identical\"] = byte_ok",
    "            if not count_ok:",
    "                errors.append(\"source_independent_runs_not_satisfied\")",
    "            if not byte_ok:",
    "                errors.append(\"source_normalized_output_not_byte_identical\")",
    "",
    "    verifier_path = source.get(\"result_verifier_path\")",
    "    verifier_ok = False",
    "    if isinstance(verifier_path, str) and (repo / verifier_path).is_file():",
    "        returncode, _ = verifier_runner(repo / verifier_path)",
    "        verifier_ok = returncode == 0",
    "    checks[\"source_result_verifier_passes\"] = verifier_ok",
    "    if not verifier_ok:",
    "        errors.append(\"source_result_verifier_failed\")",
    "",
    "    return \x7b",
    "        \"source_id\": source_id,",
    "        \"passed\": not errors,",
    "        \"checks\": dict(sorted(checks.items())),",
    "        \"errors\": sorted(set(errors)),",
    "    \x7d",
    "",
    "",
    "def evaluate_manifest(",
    "    repo: Path,",
    "    protocol: dict[str, Any],",
    "    evidence: dict[str, Any],",
    "    *,",
    "    verifier_runner: VerifierRunner = _run_verifier,",
    "    git_blob_reader: GitBlobReader = _git_blob,",
    ") -> dict[str, Any]:",
    "    criteria = protocol.get(\"release_criteria\")",
    "    sources = evidence.get(\"sources\")",
    "    if not isinstance(criteria, dict):",
    "        raise TypeError(\"release_criteria must be an object\")",
    "    if not isinstance(sources, list):",
    "        raise TypeError(\"evidence sources must be a list\")",
    "",
    "    source_results = [",
    "        evaluate_source(",
    "            repo,",
    "            source,",
    "            criteria,",
    "            verifier_runner=verifier_runner,",
    "            git_blob_reader=git_blob_reader,",
    "        )",
    "        for source in sources",
    "        if isinstance(source, dict)",
    "    ]",
    "    required_count = criteria.get(\"required_source_count\")",
    "    count_ok = isinstance(required_count, int) and len(source_results) == required_count",
    "    passed_count = sum(1 for item in source_results if item[\"passed\"])",
    "    release_ready = count_ok and passed_count == len(source_results) and bool(source_results)",
    "    return \x7b",
    "        \"schema_version\": \"carl.combined-evidence-release-run.v1\",",
    "        \"protocol_id\": protocol.get(\"protocol_id\"),",
    "        \"evidence_set_id\": evidence.get(\"evidence_set_id\"),",
    "        \"metrics\": \x7b",
    "            \"source_count\": len(source_results),",
    "            \"sources_passed\": passed_count,",
    "            \"sources_failed\": len(source_results) - passed_count,",
    "            \"required_source_count_satisfied\": count_ok,",
    "        \x7d,",
    "        \"source_results\": source_results,",
    "        \"release_ready\": release_ready,",
    "    \x7d",
    "",
    "",
    "def main() -> int:",
    "    protocol = json.loads(PROTOCOL.read_text(encoding=\"utf-8\"))",
    "    evidence = json.loads(EVIDENCE.read_text(encoding=\"utf-8\"))",
    "    result = evaluate_manifest(REPO, protocol, evidence)",
    "    print(json.dumps(result, indent=2, sort_keys=True))",
    "    return 0 if result[\"release_ready\"] else 1",
    "",
    "",
    "if __name__ == \"__main__\":",
    "    raise SystemExit(main())"]

end Programs

end ReliabilityLab
